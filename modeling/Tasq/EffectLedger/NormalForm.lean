import Mathlib.Tactic
import Tasq.EffectLedger.Envelope
import Tasq.Lib.Object
import Tasq.Statements.Exact

/-! The normal form of a request: preparing it again changes nothing, the order of keys and of
    secret bindings does not show in it, and nothing else is lost. -/

namespace Tasq.Requests

open Text Outcome Json Custody Targets

/-! ### Equal up to order -/

/-- The value with these secret bindings in place of its own. -/
def setBindings (v : Json) (items : List Json) : Json :=
  match v with
  | .obj fields => .obj (fields.map fun f => if f.1 = "secretBindings" then (f.1, .arr items) else f)
  | v => v

/-- Equal up to the order of keys and of the secret bindings. -/
def Reordered (a b : Json) : Prop :=
  ∃ items others, property a "secretBindings" = some (.arr items) ∧ items.Perm others ∧
    (setBindings a others).canonical = b.canonical

/-- Requests that are equal up to the order of keys and of the secret bindings. -/
structure Envelope.Similar (e e' : Envelope) : Prop where
  workspaceId : e.workspaceId = e'.workspaceId
  effectTypeUri : e.effectTypeUri = e'.effectTypeUri
  effectSchemaVersion : e.effectSchemaVersion = e'.effectSchemaVersion
  connector : e.connector = e'.connector
  parameters : (obj e.parameters).canonical = (obj e'.parameters).canonical
  secretBindings : e.secretBindings.Perm e'.secretBindings

theorem property_setBindings (v : Json) (items : List Json) (key : String) :
    property (setBindings v items) key =
      if key = "secretBindings" then (property v key).map fun _ => .arr items
      else property v key := by
  cases v with
  | obj fields =>
    simp only [setBindings, property]
    induction fields with
    | nil => simp
    | cons f fields ih =>
      obtain ⟨k, a⟩ := f
      rw [List.map_cons]
      by_cases hk : k = "secretBindings"
      · rw [if_pos hk]
        by_cases hkey : key = k
        · simp [hkey, hk]
        · have hbeq : (key == k) = false := by simpa using hkey
          simp only [List.lookup_cons, hbeq, ih]
      · rw [if_neg hk]
        by_cases hkey : key = k
        · simp [hkey, hk]
        · have hbeq : (key == k) = false := by simpa using hkey
          simp only [List.lookup_cons, hbeq, ih]
  | null | bool | num | str | arr => simp [setBindings, property]

theorem keys_setBindings (fields : List (String × Json)) (items : List Json) :
    (fields.map fun f => if f.1 = "secretBindings" then (f.1, arr items) else f).map Prod.fst =
      fields.map Prod.fst := by
  rw [List.map_map]
  refine List.map_congr_left fun f _ => ?_
  rw [Function.comp_apply]
  split <;> rfl

theorem distinct_setBindings {v : Json} {items : List Json} (hv : v.distinct = true)
    (hitems : ∀ a ∈ items, a.distinct = true) : (setBindings v items).distinct = true := by
  cases v with
  | obj fields =>
    rw [distinct, Bool.and_eq_true, decide_eq_true_eq, distinctFields_eq, List.all_eq_true] at hv
    rw [setBindings, distinct, Bool.and_eq_true, decide_eq_true_eq, keys_setBindings,
      distinctFields_eq, List.all_eq_true]
    refine ⟨hv.1, fun f hf => ?_⟩
    obtain ⟨g, hg, rfl⟩ := List.mem_map.1 hf
    split
    · rw [distinct, distinctItems_eq, List.all_eq_true]
      exact hitems
    · exact hv.2 g hg
  | null | bool | num | str | arr => exact hv

theorem hasOnly_setBindings (keys : List String) (v : Json) (items : List Json) :
    hasOnly keys (setBindings v items) = hasOnly keys v := by
  cases v with
  | obj fields =>
    simp only [setBindings, hasOnly, List.all_map]
    refine List.all_congr rfl fun f => ?_
    rw [Function.comp_apply]
    split <;> rfl
  | null | bool | num | str | arr => rfl

/-! ### Shapes read what is there -/

theorem readBinding_eq_some {v : Json} {b : SecretBinding} : readBinding v = some b ↔
    hasOnly ["name", "ref", "version", "contentDigest"] v = true ∧ text? v "name" = some b.name ∧
      text? v "ref" = some b.ref ∧ text? v "version" = some b.version ∧
      optionalText? v "contentDigest" = some b.contentDigest := by
  obtain ⟨name, ref, version, contentDigest⟩ := b
  simp only [readBinding, Option.bind_eq_bind, Option.bind_eq_some_iff, Option.guard_eq_some',
    Option.pure_def, Option.some_inj, SecretBinding.mk.injEq]
  constructor
  · rintro ⟨-, hkeys, n, hn, r, hr, v', hv, d, hd, rfl, rfl, rfl, rfl⟩
    exact ⟨hkeys, hn, hr, hv, hd⟩
  · rintro ⟨hkeys, hn, hr, hv, hd⟩
    exact ⟨(), hkeys, name, hn, ref, hr, version, hv, contentDigest, hd, rfl, rfl, rfl, rfl⟩

theorem readConnector_eq_some {v : Json} {c : ConnectorBinding} : readConnector v = some c ↔
    hasOnly ["operationUri", "operationVersion", "contractDigest", "instanceRef",
      "bindingDigest"] v = true ∧ text? v "operationUri" = some c.operationUri ∧
      positive? v "operationVersion" = some c.operationVersion ∧
      text? v "contractDigest" = some c.contractDigest ∧
      text? v "instanceRef" = some c.instanceRef ∧
      text? v "bindingDigest" = some c.bindingDigest := by
  obtain ⟨uri, version, contract, reference, binding⟩ := c
  simp only [readConnector, Option.bind_eq_bind, Option.bind_eq_some_iff, Option.guard_eq_some',
    Option.pure_def, Option.some_inj, ConnectorBinding.mk.injEq]
  constructor
  · rintro ⟨-, hkeys, u, hu, n, hn, c, hc, r, hr, d, hd, rfl, rfl, rfl, rfl, rfl⟩
    exact ⟨hkeys, hu, hn, hc, hr, hd⟩
  · rintro ⟨hkeys, hu, hn, hc, hr, hd⟩
    exact ⟨(), hkeys, uri, hu, version, hn, contract, hc, reference, hr, binding, hd, rfl, rfl, rfl,
      rfl, rfl⟩

/-- The keys of a request. -/
def envelopeKeys : List String :=
  ["protocol", "canonicalization", "digestAlgorithm", "workspaceId", "effectTypeUri",
    "effectSchemaVersion", "connector", "parameters", "secretBindings"]

theorem readEnvelope_eq_some {v : Json} {e : Envelope} : readEnvelope v = some e ↔
    (hasOnly envelopeKeys v = true ∧ text? v "protocol" = some "tasq.effect-request.v1" ∧
      text? v "canonicalization" = some "tasq.jcs-safe-integer.v1" ∧
      text? v "digestAlgorithm" = some "sha-256" ∧ text? v "workspaceId" = some e.workspaceId ∧
      text? v "effectTypeUri" = some e.effectTypeUri ∧
      positive? v "effectSchemaVersion" = some e.effectSchemaVersion ∧
      (property v "connector").bind readConnector = some e.connector) ∧
      record? v "parameters" = some e.parameters ∧
      (property v "secretBindings").bind readBindings = some e.secretBindings := by
  obtain ⟨workspaceId, uri, version, connector, parameters, bindings⟩ := e
  simp only [readEnvelope, Option.bind_eq_bind, Option.bind_eq_some_iff, Option.guard_eq_some',
    Option.pure_def, Option.some_inj, Envelope.mk.injEq, envelopeKeys]
  constructor
  · rintro ⟨-, hkeys, -, hprotocol, -, hcanonical, -, halgorithm, w, hw, u, hu, n, hn, c, hc, p, hp,
      b, hb, rfl, rfl, rfl, rfl, rfl, rfl⟩
    exact ⟨⟨hkeys, hprotocol, hcanonical, halgorithm, hw, hu, hn, hc⟩, hp, hb⟩
  · rintro ⟨⟨hkeys, hprotocol, hcanonical, halgorithm, hw, hu, hn, hc⟩, hp, hb⟩
    exact ⟨(), hkeys, (), hprotocol, (), hcanonical, (), halgorithm, workspaceId, hw, uri, hu,
      version, hn, connector, hc, parameters, hp, bindings, hb, rfl, rfl, rfl, rfl, rfl, rfl⟩

/-! ### A shape reads canonical forms alike -/

theorem readBinding_canonical {v : Json} (h : v.distinct = true) :
    readBinding v.canonical = readBinding v := by
  refine Option.ext fun b => ?_
  rw [readBinding_eq_some, readBinding_eq_some, hasOnly_canonical h, text?_canonical h,
    text?_canonical h, text?_canonical h, optionalText?_canonical h]

theorem readConnector_canonical {v : Json} (h : v.distinct = true) :
    readConnector v.canonical = readConnector v := by
  refine Option.ext fun c => ?_
  rw [readConnector_eq_some, readConnector_eq_some, hasOnly_canonical h, text?_canonical h,
    positive?_canonical h, text?_canonical h, text?_canonical h, text?_canonical h]

/-- Readers of items that do not see the order of keys read canonical items alike. -/
theorem mapM_canonical {α : Type} {f : Json → Option α} {items others : List Json}
    (hf : ∀ v, v.distinct = true → f v.canonical = f v) (h : ∀ a ∈ items, a.distinct = true)
    (h' : ∀ a ∈ others, a.distinct = true)
    (heq : items.map canonical = others.map canonical) : items.mapM f = others.mapM f := by
  have hread (l : List Json) (hl : ∀ a ∈ l, a.distinct = true) :
      l.mapM f = (l.map canonical).mapM f := by
    rw [List.mapM_map]
    induction l with
    | nil => rfl
    | cons a l ih =>
      rw [List.mapM_cons, List.mapM_cons, Function.comp_apply, hf a (hl a (by simp)),
        ih fun b hb => hl b (List.mem_cons_of_mem _ hb)]
  rw [hread items h, heq, ← hread others h']

theorem mapM_perm {α : Type} {f : Json → Option α} {items others : List Json}
    (h : items.Perm others) {r : List α} (hr : items.mapM f = some r) :
    ∃ r', others.mapM f = some r' ∧ r.Perm r' := by
  induction h generalizing r with
  | nil => exact ⟨r, hr, List.Perm.refl _⟩
  | cons a _ ih =>
    simp only [List.mapM_cons, Option.bind_eq_bind, Option.bind_eq_some_iff, Option.pure_def,
      Option.some_inj] at hr ⊢
    obtain ⟨x, hx, xs, hxs, rfl⟩ := hr
    obtain ⟨ys, hys, hperm⟩ := ih hxs
    exact ⟨_, ⟨x, hx, ys, hys, rfl⟩, hperm.cons x⟩
  | swap a b l =>
    simp only [List.mapM_cons, Option.bind_eq_bind, Option.bind_eq_some_iff, Option.pure_def,
      Option.some_inj] at hr ⊢
    obtain ⟨y, hy, _, ⟨x, hx, xs, hxs, rfl⟩, rfl⟩ := hr
    exact ⟨_, ⟨x, hx, _, ⟨y, hy, xs, hxs, rfl⟩, rfl⟩, List.Perm.swap _ _ _⟩
  | trans _ _ ih ih' =>
    obtain ⟨s, hs, hperm⟩ := ih hr
    obtain ⟨t, ht, hperm'⟩ := ih' hs
    exact ⟨t, ht, hperm.trans hperm'⟩

/-! ### What is read is what is there -/

theorem text?_eq_some {v : Json} {key s : String} :
    text? v key = some s ↔ property v key = some (.str s) := by
  unfold text?
  split
  · rename_i t ht
    rw [ht, Option.some_inj, Option.some_inj, Json.str.injEq]
  · rename_i hnot
    exact ⟨nofun, fun h => absurd h (hnot s)⟩

theorem optionalText?_eq_some {v : Json} {key : String} {o : Option String}
    (h : optionalText? v key = some o) : property v key = o.map .str := by
  unfold optionalText? at h
  split at h
  · rename_i hnone
    rw [hnone, ← Option.some_inj.1 h]
    rfl
  · rename_i t ht
    rw [ht, ← Option.some_inj.1 h]
    rfl
  · cases h

theorem positive?_eq_some {v : Json} {key : String} {n : ℕ+} (h : positive? v key = some n) :
    property v key = some (.num (n : ℕ)) := by
  obtain ⟨a, ha, hn⟩ := Option.bind_eq_some_iff.1 h
  rw [ha, Option.some_inj]
  unfold asPositive at hn
  split at hn
  · rename_i q
    split at hn
    · rename_i hq
      obtain rfl := Option.some_inj.1 hn
      congr 1
      have hnum : ((q.num.toNat : ℕ) : ℤ) = q.num := Int.toNat_of_nonneg hq.2.le
      rw [PNat.mk_coe, ← Int.cast_natCast, hnum]
      exact (Rat.den_eq_one_iff q).1 hq.1 |>.symm
    · cases hn
  · cases hn

theorem binding_nodup (b : SecretBinding) : (b.entries.map Prod.fst).Nodup := by
  rw [show b.entries.map Prod.fst = ["name", "ref", "version", "contentDigest"] from rfl]
  decide

theorem binding_distinct (b : SecretBinding) : b.json.distinct = true := by
  rw [SecretBinding.json, distinct_present (binding_nodup b)]
  obtain ⟨name, ref, version, _ | digest⟩ := b <;> rfl

/-- CORRECT: a binding that is read is the value, up to the order of keys. -/
theorem canonical_binding {v : Json} {b : SecretBinding} (hv : v.distinct = true)
    (h : readBinding v = some b) : v.canonical = b.json.canonical := by
  obtain ⟨hkeys, hname, href, hversion, hdigest⟩ := readBinding_eq_some.1 h
  refine canonical_of_shape hv (binding_distinct b) (binding_nodup b) hkeys ?_
  simp only [SecretBinding.entries, List.forall_mem_cons, List.not_mem_nil, IsEmpty.forall_iff,
    implies_true, and_true, text?_eq_some.1 hname, text?_eq_some.1 href, text?_eq_some.1 hversion,
    optionalText?_eq_some hdigest]

theorem readBinding_json (b : SecretBinding) : readBinding b.json = some b := by
  have hproperty (key : String) : property b.json key = (b.entries.lookup key).join :=
    lookup_present (binding_nodup b) key
  exact readBinding_eq_some.2 ⟨hasOnly_present b.entries, text?_of (hproperty "name"),
    text?_of (hproperty "ref"), text?_of (hproperty "version"),
    optionalText?_of (hproperty "contentDigest")⟩

theorem connector_distinct (c : ConnectorBinding) : c.json.distinct = true := rfl

/-- CORRECT: a connector that is read is the value, up to the order of keys. -/
theorem canonical_connector {v : Json} {c : ConnectorBinding} (hv : v.distinct = true)
    (h : readConnector v = some c) : v.canonical = c.json.canonical := by
  obtain ⟨hkeys, huri, hversion, hcontract, href, hbinding⟩ := readConnector_eq_some.1 h
  refine @canonical_of_shape _ [("operationUri", some (.str c.operationUri)),
    ("operationVersion", some (.num (c.operationVersion : ℕ))),
    ("contractDigest", some (.str c.contractDigest)), ("instanceRef", some (.str c.instanceRef)),
    ("bindingDigest", some (.str c.bindingDigest))] hv (connector_distinct c) (by simp) hkeys ?_
  simp only [List.forall_mem_cons, List.not_mem_nil, IsEmpty.forall_iff, implies_true, and_true,
    text?_eq_some.1 huri, positive?_eq_some hversion, text?_eq_some.1 hcontract,
    text?_eq_some.1 href, text?_eq_some.1 hbinding, Option.map_some]

theorem readConnector_json (c : ConnectorBinding) : readConnector c.json = some c :=
  readConnector_eq_some.2 ⟨rfl, rfl, positive?_of rfl, rfl, rfl, rfl⟩

/-- Items that are read one by one. -/
theorem mapM_canonical_json {items : List Json} {bs : List SecretBinding}
    (hitems : ∀ a ∈ items, a.distinct = true) (h : items.mapM readBinding = some bs) :
    items.map canonical = bs.map fun b => b.json.canonical := by
  induction items generalizing bs with
  | nil =>
    rw [List.mapM_nil, Option.pure_def, Option.some_inj] at h
    rw [← h]
    rfl
  | cons a items ih =>
    simp only [List.mapM_cons, Option.bind_eq_bind, Option.bind_eq_some_iff, Option.pure_def,
      Option.some_inj] at h
    obtain ⟨b, hb, cs, hcs, rfl⟩ := h
    rw [List.map_cons, List.map_cons, canonical_binding (hitems a (by simp)) hb,
      ih (fun c hc => hitems c (List.mem_cons_of_mem _ hc)) hcs]

theorem mapM_json (bs : List SecretBinding) :
    (bs.map SecretBinding.json).mapM readBinding = some bs := by
  induction bs with
  | nil => rfl
  | cons b bs ih => simp [readBinding_json, ih]

/-- A plain value keeps every field of a record. -/
theorem record?_eq_some {v : Json} {key : String} {fields : List (String × Json)}
    (hplain : v.plain = true) (h : record? v key = some fields) :
    property v key = some (.obj fields) := by
  unfold record? at h
  split at h
  · rename_i others hothers
    rw [hothers, ← Option.some_inj.1 h, Option.some_inj]
    congr 1
    have hpart : Part (.obj others) v := by
      cases v with
      | obj all =>
        obtain ⟨before, after, hsplit, -⟩ := List.lookup_eq_some_iff.1 hothers
        exact .field (k := key) (hsplit ▸ List.mem_append_right _ List.mem_cons_self)
      | null | bool | num | str | arr => cases hothers
    have hreserved := hpart.plain hplain
    rw [plain, plainFields_eq, List.all_eq_true] at hreserved
    refine (List.filter_eq_self.2 fun f hf => ?_).symm
    have hf := hreserved f hf
    rw [Bool.and_eq_true, decide_eq_true_eq] at hf
    exact decide_eq_true fun hproto : f.1 = "__proto__" => hf.1 (by rw [hproto]; decide)
  · cases h

theorem property_json (e : Envelope) :
    property e.json "connector" = some e.connector.json ∧
      property e.json "parameters" = some (.obj e.parameters) ∧
      property e.json "secretBindings" = some (.arr (e.secretBindings.map SecretBinding.json)) :=
  ⟨rfl, rfl, rfl⟩

/-- A request has no key twice when its parameters have none. -/
theorem envelope_distinct {e : Envelope} (h : (obj e.parameters).distinct = true) :
    e.json.distinct = true := by
  have hbindings : (arr (e.secretBindings.map SecretBinding.json)).distinct = true := by
    rw [distinct, distinctItems_eq, List.all_eq_true]
    intro a ha
    obtain ⟨b, -, rfl⟩ := List.mem_map.1 ha
    exact binding_distinct b
  have hkeys : (["protocol", "canonicalization", "digestAlgorithm", "workspaceId", "effectTypeUri",
      "effectSchemaVersion", "connector", "parameters", "secretBindings"] : List String).Nodup := by
    decide
  rw [Envelope.json, distinct, Bool.and_eq_true, decide_eq_true_eq]
  refine ⟨hkeys, ?_⟩
  simp only [distinctFields, h, hbindings, connector_distinct, Bool.and_true]
  rfl

/-- The entries of a request. -/
def Envelope.entries (e : Envelope) : List (String × Option Json) :=
  [("protocol", some (.str "tasq.effect-request.v1")),
    ("canonicalization", some (.str "tasq.jcs-safe-integer.v1")),
    ("digestAlgorithm", some (.str "sha-256")), ("workspaceId", some (.str e.workspaceId)),
    ("effectTypeUri", some (.str e.effectTypeUri)),
    ("effectSchemaVersion", some (.num (e.effectSchemaVersion : ℕ))),
    ("connector", some e.connector.json), ("parameters", some (.obj e.parameters)),
    ("secretBindings", some (.arr (e.secretBindings.map SecretBinding.json)))]

/-- The items that secret bindings are read from. -/
theorem bindings_items {v : Json} {bs : List SecretBinding} (hv : v.distinct = true)
    (h : (property v "secretBindings").bind readBindings = some bs) :
    ∃ items, property v "secretBindings" = some (.arr items) ∧
      (∀ a ∈ items, a.distinct = true) ∧ items.mapM readBinding = some bs := by
  obtain ⟨a, ha, hread⟩ := Option.bind_eq_some_iff.1 h
  have hdistinct := property_distinct hv ha
  cases a with
  | arr items =>
    rw [distinct, distinctItems_eq, List.all_eq_true] at hdistinct
    exact ⟨items, ha, hdistinct, hread⟩
  | null | bool | num | str | obj => cases hread

/-- CORRECT: a request that is read is the value, up to the order of keys. -/
theorem canonical_envelope {v : Json} {e : Envelope} (hv : v.distinct = true)
    (hplain : v.plain = true) (h : readEnvelope v = some e) :
    v.canonical = e.json.canonical ∧ e.json.distinct = true := by
  obtain ⟨⟨hkeys, hprotocol, hcanonical, halgorithm, hworkspace, htype, hversion, hconnector⟩,
    hparameters, hbindings⟩ := readEnvelope_eq_some.1 h
  have hparameters := record?_eq_some hplain hparameters
  have hdistinct := envelope_distinct (property_distinct hv hparameters)
  refine ⟨?_, hdistinct⟩
  obtain ⟨c, hc, hread⟩ := Option.bind_eq_some_iff.1 hconnector
  obtain ⟨items, hitems, hall, hmap⟩ := bindings_items hv hbindings
  have hitem : (arr items).canonical =
      (arr (e.secretBindings.map SecretBinding.json)).canonical := by
    rw [Json.canonical, Json.canonical, canonicalItems_eq_map, canonicalItems_eq_map, List.map_map,
      mapM_canonical_json hall hmap]
    rfl
  refine @canonical_of_shape _ e.entries hv hdistinct ?_ hkeys ?_
  · change envelopeKeys.Nodup
    decide
  · simp only [Envelope.entries, List.forall_mem_cons, List.not_mem_nil, IsEmpty.forall_iff,
      implies_true, and_true, text?_eq_some.1 hprotocol, text?_eq_some.1 hcanonical,
      text?_eq_some.1 halgorithm, text?_eq_some.1 hworkspace, text?_eq_some.1 htype,
      positive?_eq_some hversion, hc, hparameters, hitems, Option.map_some, hitem,
      canonical_connector (property_distinct hv hc) hread]

/-- CORRECT: a request reads as itself. -/
theorem readEnvelope_json {e : Envelope} (h : ∀ f ∈ e.parameters, f.1 ≠ "__proto__") :
    readEnvelope e.json = some e := by
  have hparameters : record? e.json "parameters" = some e.parameters := by
    rw [record?, (property_json e).2.1]
    exact congrArg some (List.filter_eq_self.2 fun f hf => decide_eq_true (h f hf))
  refine readEnvelope_eq_some.2 ⟨⟨rfl, rfl, rfl, rfl, rfl, rfl, positive?_of rfl, ?_⟩, hparameters,
    ?_⟩
  · exact readConnector_json e.connector
  · exact mapM_json e.secretBindings

/-! ### Order does not show -/

theorem mem_bindings {fields : List (String × Json)} {items : List Json}
    (hv : (obj fields).distinct = true)
    (h : property (obj fields) "secretBindings" = some (.arr items)) :
    ∀ f ∈ fields, f.1 = "secretBindings" → f.2 = .arr items := by
  intro f hf hkey
  have hmem := (lookup_eq_some (nodup_of_distinct hv)).1 h
  exact congrArg Prod.snd (List.inj_on_of_nodup_map (nodup_of_distinct hv) hf hmem hkey)

/-- The size does not show the order of the secret bindings. -/
theorem size_setBindings {v : Json} {items others : List Json} (hv : v.distinct = true)
    (h : property v "secretBindings" = some (.arr items)) (hperm : items.Perm others) :
    size (setBindings v others) = size v := by
  cases v with
  | obj fields =>
    rw [setBindings, size_obj, size_obj, List.map_map]
    congr 1
    refine List.map_congr_left fun f hf => ?_
    rw [Function.comp_apply]
    split
    · rename_i hkey
      rw [Prod.map_apply, Prod.map_apply, mem_bindings hv h f hf hkey, size_arr, size_arr,
        sizeItems_perm (hperm.map size)]
    · rfl
  | null | bool | num | str | arr => rfl

theorem size_reordered {a b : Json} (ha : a.distinct = true) (h : Reordered a b) :
    size b = size a := by
  obtain ⟨items, others, hitems, hperm, heq⟩ := h
  rw [← size_canonical b, ← heq, size_canonical, size_setBindings ha hitems hperm]

/-- CORRECT: the order of keys and of secret bindings does not show in what is read. -/
theorem readEnvelope_reordered {a b : Json} {e : Envelope} (ha : a.distinct = true)
    (hb : b.distinct = true) (h : Reordered a b) (hplain : a.plain = true)
    (he : readEnvelope a = some e) : ∃ e', readEnvelope b = some e' ∧ e.Similar e' := by
  have hplain' : b.plain = true := by
    have hsize := congrArg Size.plain (size_reordered ha h)
    exact hsize.trans hplain
  obtain ⟨items, others, hitems, hperm, heq⟩ := h
  obtain ⟨⟨hkeys, hprotocol, hcanonical, halgorithm, hworkspace, htype, hversion, hconnector⟩,
    hparameters, hbindings⟩ := readEnvelope_eq_some.1 he
  obtain ⟨items', hitems', hall, hmap⟩ := bindings_items ha hbindings
  rw [hitems, Option.some_inj, arr.injEq] at hitems'
  subst hitems'
  have hc := distinct_setBindings ha fun x hx => hall x (hperm.mem_iff.2 hx)
  -- A reader of another property does not see the change.
  have hproperty (key : String) (hkey : key ≠ "secretBindings") :
      (property b key).map Json.canonical = (property a key).map Json.canonical := by
    rw [← property_canonical hb, ← heq, property_canonical hc, property_setBindings, if_neg hkey]
  have htext (key : String) (hkey : key ≠ "secretBindings") : text? b key = text? a key := by
    rw [← text?_canonical hb, ← heq, text?_canonical hc, text?, property_setBindings, if_neg hkey,
      ← text?]
  have hpositive (key : String) (hkey : key ≠ "secretBindings") :
      positive? b key = positive? a key := by
    rw [← positive?_canonical hb, ← heq, positive?_canonical hc, positive?, property_setBindings,
      if_neg hkey, ← positive?]
  have hconnect (v : Json) (hv : v.distinct = true) : (property v "connector").bind readConnector =
      ((property v "connector").map Json.canonical).bind readConnector := by
    rw [Option.bind_map]
    exact Option.bind_congr fun x hx => (readConnector_canonical (property_distinct hv hx)).symm
  have hconnector' : (property b "connector").bind readConnector = some e.connector := by
    rw [hconnect b hb, hproperty _ (by decide), ← hconnect a ha, hconnector]
  -- The parameters are the same up to the order of keys.
  have hparameters := record?_eq_some hplain hparameters
  obtain ⟨x, hx, hxcanonical⟩ := Option.map_eq_some_iff.1
    ((hproperty "parameters" (by decide)).trans (by rw [hparameters]; rfl))
  obtain ⟨ps, rfl⟩ : ∃ ps, x = .obj ps := by
    cases x with
    | obj ps => exact ⟨ps, rfl⟩
    | null | bool | num | str | arr => simp [Json.canonical] at hxcanonical
  have hrecord : record? b "parameters" = some ps := by
    have hfilter : record? b "parameters" =
        some (ps.filter fun f => decide (f.1 ≠ "__proto__")) := by rw [record?, hx]
    rw [hfilter]
    have hsame := record?_eq_some hplain' hfilter
    rw [hx, Option.some_inj, obj.injEq] at hsame
    rw [← hsame]
  -- The bindings are read from the reordered items.
  obtain ⟨bs, hbs, hbsperm⟩ := mapM_perm hperm hmap
  have harr : (property b "secretBindings").map Json.canonical = some (arr others).canonical := by
    rw [← property_canonical hb, ← heq, property_canonical hc, property_setBindings, if_pos rfl,
      hitems]
    rfl
  obtain ⟨y, hy, hycanonical⟩ := Option.map_eq_some_iff.1 harr
  obtain ⟨others', rfl⟩ : ∃ others', y = .arr others' := by
    cases y with
    | arr others' => exact ⟨others', rfl⟩
    | null | bool | num | str | obj => simp [Json.canonical] at hycanonical
  have hreads : (property b "secretBindings").bind readBindings = some bs := by
    have hitems' := property_distinct hb hy
    rw [distinct, distinctItems_eq, List.all_eq_true] at hitems'
    rw [Json.canonical, Json.canonical, canonicalItems_eq_map, canonicalItems_eq_map,
      arr.injEq] at hycanonical
    rw [hy, Option.bind_some, readBindings, ← hbs]
    exact mapM_canonical (fun _ => readBinding_canonical) hitems'
      (fun x hx => hall x (hperm.mem_iff.2 hx)) hycanonical
  refine ⟨⟨e.workspaceId, e.effectTypeUri, e.effectSchemaVersion, e.connector, ps, bs⟩, ?_,
    ⟨rfl, rfl, rfl, rfl, hxcanonical.symm, hbsperm⟩⟩
  refine readEnvelope_eq_some.2 ⟨⟨?_, ?_, ?_, ?_, ?_, ?_, ?_, hconnector'⟩, hrecord, hreads⟩
  · rw [← hasOnly_canonical hb, ← heq, hasOnly_canonical hc, hasOnly_setBindings, hkeys]
  · rw [htext _ (by decide), hprotocol]
  · rw [htext _ (by decide), hcanonical]
  · rw [htext _ (by decide), halgorithm]
  · rw [htext _ (by decide), hworkspace]
  · rw [htext _ (by decide), htype]
  · rw [hpositive _ (by decide), hversion]

/-! ### Sorted bindings -/

theorem sortBindings_perm (bs : List SecretBinding) : (sortBindings bs).Perm bs :=
  List.perm_insertionSort _ _

theorem sortBindings_pairwise (bs : List SecretBinding) :
    (sortBindings bs).Pairwise fun a b => utf16 a.name ≤ utf16 b.name :=
  List.pairwise_insertionSort _ _

theorem sortBindings_sorted {bs : List SecretBinding}
    (h : bs.Pairwise fun a b => utf16 a.name ≤ utf16 b.name) : sortBindings bs = bs :=
  h.insertionSort_eq

/-- Sorted bindings of which no two neighbours share a name have distinct names. -/
theorem names_nodup {bs : List SecretBinding}
    (h : bs.Pairwise fun a b => utf16 a.name ≤ utf16 b.name) (hnone : duplicateName bs = none) :
    (bs.map SecretBinding.name).Nodup := by
  induction bs with
  | nil => exact List.nodup_nil
  | cons a bs ih =>
    rw [List.pairwise_cons] at h
    cases bs with
    | nil => exact List.nodup_singleton _
    | cons b bs =>
      rw [duplicateName] at hnone
      split at hnone
      · cases hnone
      · rename_i hne
        rw [List.map_cons, List.nodup_cons]
        refine ⟨fun hmem => ?_, ih h.2 hnone⟩
        obtain ⟨c, hc, hname⟩ := List.mem_map.1 hmem
        -- The next name lies between two equal ones.
        have hab := h.1 b List.mem_cons_self
        have hbc : utf16 b.name ≤ utf16 c.name := by
          rcases List.mem_cons.1 hc with rfl | hc
          · exact le_refl _
          · exact (List.pairwise_cons.1 h.2).1 c hc
        rw [hname] at hbc
        exact hne (utf16_injective (le_antisymm hab hbc))

/-- The order of bindings with distinct names does not show when they are sorted. -/
theorem sortBindings_eq {bs cs : List SecretBinding} (h : bs.Perm cs)
    (hnodup : (bs.map SecretBinding.name).Nodup) : sortBindings bs = sortBindings cs := by
  have hperm : (sortBindings bs).Perm (sortBindings cs) :=
    ((sortBindings_perm _).trans h).trans (sortBindings_perm _).symm
  refine hperm.eq_of_pairwise ?_ (sortBindings_pairwise _) (sortBindings_pairwise _)
  intro a b ha hb hab hba
  have ha : a ∈ bs := (sortBindings_perm _).mem_iff.1 ha
  have hb : b ∈ bs := h.mem_iff.2 ((sortBindings_perm _).mem_iff.1 hb)
  exact List.inj_on_of_nodup_map hnodup ha hb (utf16_injective (le_antisymm hab hba))

/-! ### Prepared requests -/

variable {rt : RequestRuntime}

/-- The request with its bindings sorted. -/
def Envelope.sorted (e : Envelope) : Envelope :=
  { e with secretBindings := sortBindings e.secretBindings }

theorem parseEnvelope_eq_some {v : Json} {e : Envelope} :
    parseEnvelope rt v = some e ↔ readEnvelope v = some e ∧ IsEnvelope rt e := by
  rw [parseEnvelope, Option.filter_eq_some_iff, decide_eq_true_eq]

theorem prepareEffectRequest_eq_ok {input : Json} {p : PreparedRequest} :
    prepareEffectRequest rt input = .ok p ↔ ∃ e, Within effectLimits input ∧
      parseEnvelope rt input = some e ∧ duplicateName e.sorted.secretBindings = none ∧
      Within effectLimits e.sorted.json ∧
      p = ⟨e.sorted, serialize e.sorted.json,
        "sha256:" ++ (rt.sha256Hex (digestDomain ++ serialize e.sorted.json)).1⟩ := by
  simp only [prepareEffectRequest, bind_eq_ok, refuse_eq_ok, demand_eq_ok, pure_eq_ok, not_not,
    Option.not_isSome_iff_eq_none]
  constructor
  · rintro ⟨-, hwithin, e, he, -, hnone, -, hwithin', rfl⟩
    exact ⟨e, hwithin, he, hnone, hwithin', rfl⟩
  · rintro ⟨e, hwithin, he, hnone, hwithin', rfl⟩
    exact ⟨(), hwithin, e, he, (), hnone, (), hwithin', rfl⟩

theorem isEnvelope_congr {e e' : Envelope} (h : e.Similar e') :
    IsEnvelope rt e ↔ IsEnvelope rt e' := by
  simp only [IsEnvelope, h.workspaceId, h.effectTypeUri, h.connector, h.secretBindings.length_eq,
    h.secretBindings.mem_iff]

theorem similar_sorted (e : Envelope) : e.Similar e.sorted :=
  ⟨rfl, rfl, rfl, rfl, rfl, (sortBindings_perm _).symm⟩

/-- Similar requests with distinct names are one request up to the order of keys, once sorted. -/
theorem canonical_sorted {e e' : Envelope} (h : e.Similar e')
    (hnodup : (e.secretBindings.map SecretBinding.name).Nodup) :
    e.sorted.json.canonical = e'.sorted.json.canonical := by
  have hbindings := sortBindings_eq h.secretBindings hnodup
  simp only [Envelope.json, Envelope.sorted, Json.canonical.eq_def (obj (_ :: _)), canonicalValues,
    h.workspaceId, h.effectTypeUri, h.effectSchemaVersion, h.connector, h.parameters, hbindings]

/-- The names of a prepared request are distinct. -/
theorem names_nodup_of_none {e : Envelope} (h : duplicateName e.sorted.secretBindings = none) :
    (e.secretBindings.map SecretBinding.name).Nodup :=
  ((sortBindings_perm _).map _).nodup_iff.1 (names_nodup (sortBindings_pairwise _) h)

/-- CORRECT: preparing the prepared form changes nothing. -/
theorem prepare_prepared {a : Json} {p : PreparedRequest}
    (hp : prepareEffectRequest rt a = .ok p) : prepareEffectRequest rt p.request.json = .ok p := by
  obtain ⟨e, -, he, hnone, hwithin, rfl⟩ := prepareEffectRequest_eq_ok.1 hp
  obtain ⟨-, hvalid⟩ := parseEnvelope_eq_some.1 he
  have hproto : ∀ f ∈ e.sorted.parameters, f.1 ≠ "__proto__" := by
    intro f hf heq
    have hpart : Part (.obj e.parameters) e.sorted.json :=
      .field (k := "parameters") (by simp [Envelope.sorted])
    exact Statements.not_reserved (hpart.plain hwithin.2.1) f hf (by rw [heq]; decide)
  have hsorted : e.sorted.sorted = e.sorted := by
    rw [Envelope.sorted, show sortBindings e.sorted.secretBindings = e.sorted.secretBindings from
      sortBindings_sorted (sortBindings_pairwise _)]
  refine prepareEffectRequest_eq_ok.2 ⟨e.sorted, hwithin, parseEnvelope_eq_some.2
    ⟨readEnvelope_json hproto, (isEnvelope_congr (similar_sorted e)).1 hvalid⟩, ?_, ?_, ?_⟩
  · rw [hsorted]
    exact hnone
  · rw [hsorted]
    exact hwithin
  · rw [hsorted]

/-- What is prepared has no key twice. -/
theorem prepared_distinct {a : Json} {p : PreparedRequest} (ha : a.distinct = true)
    (hp : prepareEffectRequest rt a = .ok p) : p.request.json.distinct = true := by
  obtain ⟨e, hwithin, he, -, -, rfl⟩ := prepareEffectRequest_eq_ok.1 hp
  have hdistinct := (canonical_envelope ha hwithin.2.1 (parseEnvelope_eq_some.1 he).1).2
  exact envelope_distinct (property_distinct hdistinct (property_json e).2.1)

/-- CORRECT: the order of keys and of secret bindings does not show in the prepared form. -/
theorem prepare_reordered {a b : Json} {p : PreparedRequest} (ha : a.distinct = true)
    (hb : b.distinct = true) (hp : prepareEffectRequest rt a = .ok p) (h : Reordered a b) :
    ∃ q, prepareEffectRequest rt b = .ok q ∧ q.canonicalRequest = p.canonicalRequest ∧
      q.requestDigest = p.requestDigest ∧
      q.request.json.canonical = p.request.json.canonical := by
  have hdistinct := prepared_distinct ha hp
  obtain ⟨e, hwithin, he, hnone, hwithin', rfl⟩ := prepareEffectRequest_eq_ok.1 hp
  obtain ⟨hread, hvalid⟩ := parseEnvelope_eq_some.1 he
  obtain ⟨e', hread', hsimilar⟩ := readEnvelope_reordered ha hb h hwithin.2.1 hread
  have hnodup := names_nodup_of_none hnone
  have hcanonical := canonical_sorted hsimilar hnodup
  have hwithinb : Within effectLimits b := (within_of_size (size_reordered ha h)).2 hwithin
  have hdistinct' : e'.sorted.json.distinct = true := by
    have hd := (canonical_envelope hb hwithinb.2.1 hread').2
    exact envelope_distinct (property_distinct hd (property_json e').2.1)
  have htext : serialize e'.sorted.json = serialize e.sorted.json := by
    rw [← serialize_canonical hdistinct', ← hcanonical, serialize_canonical hdistinct]
  have hnone' : duplicateName e'.sorted.secretBindings = none := by
    rw [Envelope.sorted, ← sortBindings_eq hsimilar.secretBindings hnodup]
    exact hnone
  refine ⟨_, prepareEffectRequest_eq_ok.2 ⟨e', hwithinb, parseEnvelope_eq_some.2
    ⟨hread', (isEnvelope_congr hsimilar).1 hvalid⟩, hnone', ?_, rfl⟩, htext, ?_, hcanonical.symm⟩
  · rw [← within_canonical, ← hcanonical, within_canonical]
    exact hwithin'
  · rw [htext]

/-! ### Nothing else is lost -/

theorem mapM_perm_right {α : Type} {f : Json → Option α} {items : List Json} {r r' : List α}
    (h : r.Perm r') (hr : items.mapM f = some r) :
    ∃ others, items.Perm others ∧ others.mapM f = some r' := by
  induction h generalizing items with
  | nil => exact ⟨items, List.Perm.refl _, hr⟩
  | cons x _ ih =>
    cases items with
    | nil => cases hr
    | cons a items =>
      simp only [List.mapM_cons, Option.bind_eq_bind, Option.bind_eq_some_iff, Option.pure_def,
        Option.some_inj, List.cons.injEq] at hr
      obtain ⟨y, hy, ys, hys, rfl, rfl⟩ := hr
      obtain ⟨others, hperm, hothers⟩ := ih hys
      exact ⟨a :: others, hperm.cons a, by simp [hy, hothers]⟩
  | swap x y l =>
    cases items with
    | nil => cases hr
    | cons a items =>
      cases items with
      | nil => simp [Option.bind_eq_some_iff] at hr
      | cons b items =>
        simp only [List.mapM_cons, Option.bind_eq_bind, Option.bind_eq_some_iff, Option.pure_def,
          Option.some_inj, List.cons.injEq] at hr
        obtain ⟨u, hu, _, ⟨v, hv, vs, hvs, rfl⟩, rfl, rfl, rfl⟩ := hr
        exact ⟨b :: a :: items, List.Perm.swap _ _ _, by simp [hu, hv, hvs]⟩
  | trans _ _ ih ih' =>
    obtain ⟨others, hperm, hothers⟩ := ih hr
    obtain ⟨last, hperm', hlast⟩ := ih' hothers
    exact ⟨last, hperm.trans hperm', hlast⟩

theorem sorted_json (e : Envelope) : e.sorted.json =
    setBindings e.json (e.sorted.secretBindings.map SecretBinding.json) := by
  simp [setBindings, Envelope.json, Envelope.sorted]

/-- CORRECT: requests with one preimage are equal up to the order of keys and of the bindings. -/
theorem reordered_of_preimage {a b : Json} {p q : PreparedRequest} (ha : a.distinct = true)
    (hb : b.distinct = true) (hp : prepareEffectRequest rt a = .ok p)
    (hq : prepareEffectRequest rt b = .ok q) (h : p.preimage = q.preimage) : Reordered a b := by
  have hpd := prepared_distinct ha hp
  have hqd := prepared_distinct hb hq
  obtain ⟨e, hwithin, he, -, hwithin', rfl⟩ := prepareEffectRequest_eq_ok.1 hp
  obtain ⟨e', hwithinb, he', -, hwithinb', rfl⟩ := prepareEffectRequest_eq_ok.1 hq
  obtain ⟨hread, -⟩ := parseEnvelope_eq_some.1 he
  obtain ⟨hread', -⟩ := parseEnvelope_eq_some.1 he'
  have htext : serialize e.sorted.json = serialize e'.sorted.json := List.append_cancel_left h
  have hcanonical := (serialize_eq_iff hwithin'.1 hpd hwithinb'.1 hqd).1 htext
  obtain ⟨haCanonical, hed⟩ := canonical_envelope ha hwithin.2.1 hread
  obtain ⟨hbCanonical, hed'⟩ := canonical_envelope hb hwithinb.2.1 hread'
  have hsorted (key : String) : (property e.sorted.json key).map Json.canonical =
      (property e'.sorted.json key).map Json.canonical := by
    rw [← property_canonical hpd, hcanonical, property_canonical hqd]
  -- The sorted bindings are the same, so the bindings are the same up to their order.
  have hbindings : e.sorted.secretBindings = e'.sorted.secretBindings := by
    have harr := hsorted "secretBindings"
    rw [(property_json _).2.2, (property_json _).2.2, Option.map_some, Option.map_some,
      Option.some_inj, Json.canonical, Json.canonical, canonicalItems_eq_map, canonicalItems_eq_map,
      arr.injEq] at harr
    have hall (bs : List SecretBinding) : ∀ x ∈ bs.map SecretBinding.json, x.distinct = true := by
      intro x hx
      obtain ⟨c, -, rfl⟩ := List.mem_map.1 hx
      exact binding_distinct c
    have hreads := mapM_canonical (fun _ => readBinding_canonical) (hall _) (hall _) harr
    rw [mapM_json, mapM_json] at hreads
    exact Option.some_inj.1 hreads
  have hperm : e.secretBindings.Perm e'.secretBindings :=
    (sortBindings_perm _).symm.trans ((List.Perm.of_eq hbindings).trans (sortBindings_perm _))
  obtain ⟨items, hitems, hall, hmap⟩ := bindings_items ha (readEnvelope_eq_some.1 hread).2.2
  obtain ⟨items', hitems', hall', hmap'⟩ := bindings_items hb (readEnvelope_eq_some.1 hread').2.2
  obtain ⟨others, hothers, hmapothers⟩ := mapM_perm_right hperm hmap
  have hallothers : ∀ x ∈ others, x.distinct = true := fun x hx => hall x (hothers.mem_iff.2 hx)
  refine ⟨items, others, hitems, hothers, ?_⟩
  have hdistinct := distinct_setBindings ha hallothers
  have hkeys := (readEnvelope_eq_some.1 hread).1.1
  have hkeys' := (readEnvelope_eq_some.1 hread').1.1
  obtain ⟨fields, rfl⟩ : ∃ fields, a = .obj fields := by
    cases a with
    | obj fields => exact ⟨fields, rfl⟩
    | null | bool | num | str | arr => cases hkeys
  obtain ⟨fields', rfl⟩ : ∃ fields', b = .obj fields' := by
    cases b with
    | obj fields' => exact ⟨fields', rfl⟩
    | null | bool | num | str | arr => cases hkeys'
  refine (canonical_obj_iff hdistinct hb).2 fun key => ?_
  change (property (setBindings (.obj fields) others) key).map Json.canonical =
    (property (.obj fields') key).map Json.canonical
  rw [property_setBindings]
  split
  · rename_i hkey
    rw [hkey, hitems, hitems', Option.map_some, Option.map_some, Option.map_some, Json.canonical,
      Json.canonical, canonicalItems_eq_map, canonicalItems_eq_map,
      mapM_canonical_json hallothers hmapothers, mapM_canonical_json hall' hmap']
  · rename_i hkey
    have hother (f : Envelope) : property f.sorted.json key = property f.json key := by
      rw [sorted_json, property_setBindings, if_neg hkey]
    rw [← property_canonical ha, haCanonical, property_canonical hed, ← hother, hsorted, hother,
      ← property_canonical hed', ← hbCanonical, property_canonical hb]

/-! ### Rows read back -/

theorem isDigest_sha256 (s : {s : String // matchesHex64 s = true}) :
    IsDigest ("sha256:" ++ s.1) := by
  refine ⟨by rw [String.toList_append]; exact List.prefix_append _ _, ?_⟩
  have hdrop : ("sha256:" ++ s.1).toList.drop 7 = s.1.toList := by
    rw [String.toList_append]
    rfl
  rw [hdrop, String.ofList_toList]
  exact s.2

/-- The canonical text of a prepared request reads as a request that is prepared alike. -/
theorem prepare_parse {a : Json} {p : PreparedRequest} (ha : a.distinct = true)
    (hp : prepareEffectRequest rt a = .ok p) :
    ∃ v q, parse p.canonicalRequest = some v ∧ prepareEffectRequest rt v = .ok q ∧
      q.canonicalRequest = p.canonicalRequest ∧ q.requestDigest = p.requestDigest ∧
      q.request.workspaceId = p.request.workspaceId := by
  have hdistinct := prepared_distinct ha hp
  have hsame := prepare_prepared hp
  obtain ⟨e, -, -, -, hwithin, rfl⟩ := prepareEffectRequest_eq_ok.1 hp
  have hparse := parse_serialize hwithin.1 hdistinct
  have hreordered : Reordered e.sorted.json e.sorted.json.canonical := by
    refine ⟨_, _, (property_json e.sorted).2.2, List.Perm.refl _, ?_⟩
    have hset : setBindings e.sorted.json (e.sorted.secretBindings.map SecretBinding.json) =
        e.sorted.json := by
      simp [setBindings, Envelope.json]
    rw [hset, canonical_canonical]
  obtain ⟨q, hq, htext, hdigest, hcanonical⟩ :=
    prepare_reordered hdistinct (distinct_canonical hdistinct) hsame hreordered
  refine ⟨_, q, hparse, hq, htext, hdigest, ?_⟩
  have hqd := prepared_distinct (distinct_canonical hdistinct) hq
  have hworkspace := @property_text _ _ hqd hdistinct hcanonical "workspaceId"
    q.request.workspaceId rfl
  have hboth : some (Json.str e.sorted.workspaceId) = some (.str q.request.workspaceId) := hworkspace
  simpa using hboth.symm

theorem deriveEffectDispatchKey_eq_ok {id key : String} {p : PreparedRequest} :
    deriveEffectDispatchKey rt id p = .ok key ↔ IsUuidV7 id ∧ IsDigest p.requestDigest ∧
      key = "tqfx1_" ++ (rt.sha256Base64url (dispatchDomain ++ p.request.workspaceId.toList ++
        Char.ofNat 0 :: (id.toList ++ Char.ofNat 0 :: p.requestDigest.toList))).1 := by
  simp only [deriveEffectDispatchKey, bind_eq_ok, refuse_eq_ok, pure_eq_ok, not_not]
  constructor
  · rintro ⟨-, hid, -, hdigest, rfl⟩
    exact ⟨hid, hdigest, rfl⟩
  · rintro ⟨hid, hdigest, rfl⟩
    exact ⟨(), hid, (), hdigest, rfl⟩

theorem readProposal_request {input : Json} {p : Proposal} (h : readProposal rt input = some p) :
    ∃ r, property input "request" = some r ∧ parseEnvelope rt r = some p.request := by
  simp only [readProposal, Option.bind_eq_bind, Option.bind_eq_some_iff, Option.pure_def,
    Option.some_inj] at h
  obtain ⟨-, -, -, -, -, -, -, -, -, -, request, ⟨r, hr, hparse⟩, -, -, -, -, rfl⟩ := h
  exact ⟨r, hr, hparse⟩

theorem dispatchKey_shape (s : {s : String // s.toList.length = 43 ∧
    s.toList.all Statements.isBase64url = true}) :
    "tqfx1_".toList <+: ("tqfx1_" ++ s.1).toList ∧ (("tqfx1_" ++ s.1).toList.drop 6).length = 43 ∧
      (("tqfx1_" ++ s.1).toList.drop 6).all Statements.isBase64url = true := by
  have hdrop : ("tqfx1_" ++ s.1).toList.drop 6 = s.1.toList := by
    rw [String.toList_append]
    rfl
  rw [hdrop]
  exact ⟨by rw [String.toList_append]; exact List.prefix_append _ _, s.2⟩

/-- What is not there satisfies everything. -/
theorem forall_mem_none {α : Type} {p : α → Prop} : ∀ a ∈ (none : Option α), p a := by
  intro a ha
  cases ha

/-- CORRECT: the row of a proposal is read again. -/
theorem parse_proposed {input : Json} {freshId : {id : String // IsUuidV7 id}}
    {principalId : {id : String // id ≠ ""}} {now : ℕ} {row : EffectRow}
    (hinput : input.distinct = true)
    (h : proposeEffect rt input freshId principalId now = .ok row) :
    ∃ e, parseEffect rt row = .ok (row, e) := by
  simp only [proposeEffect, bind_eq_ok, refuse_eq_ok, demand_eq_ok, pure_eq_ok, not_not] at h
  obtain ⟨-, hwithin, parsed, hparsed, -, -, prepared, hprepared, key, hkey, rfl⟩ := h
  rw [Option.filter_eq_some_iff, decide_eq_true_eq] at hparsed
  obtain ⟨hread, hid, htenant, htask, hattempt, hsupersedes, hcompensation, -⟩ := hparsed
  obtain ⟨r, hr, hrequest⟩ := readProposal_request hread
  have hpart : Part r input := by
    cases input with
    | obj fields =>
      obtain ⟨before, after, hsplit, -⟩ := List.lookup_eq_some_iff.1 hr
      exact .field (k := "request") (hsplit ▸ List.mem_append_right _ List.mem_cons_self)
    | null | bool | num | str | arr => cases hr
  have hdistinct := (canonical_envelope (property_distinct hinput hr) (hpart.plain hwithin.2.1)
    (parseEnvelope_eq_some.1 hrequest).1).2
  obtain ⟨v, q, hparse, hq, htext, hdigest, hworkspace⟩ := prepare_parse hdistinct hprepared
  obtain ⟨huuid, hisDigest, hkeyEq⟩ := deriveEffectDispatchKey_eq_ok.1 hkey
  have hkey' : deriveEffectDispatchKey rt (parsed.id.getD freshId) q = .ok key := by
    rw [deriveEffectDispatchKey_eq_ok, hdigest, hworkspace]
    exact ⟨huuid, hisDigest, hkeyEq⟩
  have hnonempty : prepared.canonicalRequest ≠ [] := by
    obtain ⟨e, -, -, -, -, rfl⟩ := prepareEffectRequest_eq_ok.1 hprepared
    exact List.cons_ne_nil _ _
  refine ⟨q.request, ?_⟩
  simp only [parseEffect, bind_eq_ok, refuse_eq_ok, demand_eq_ok, pure_eq_ok, not_not, not_or]
  refine ⟨v, hparse, q, hq, (), ⟨htext, hdigest⟩, key, hkey', (), rfl, (), ?_, rfl⟩
  refine ⟨huuid, htenant, htask, hattempt, hnonempty, hisDigest, ?_, forall_mem_none,
    forall_mem_none, forall_mem_none, forall_mem_none, hsupersedes, hcompensation, principalId.2,
    Nat.one_pos, forall_mem_none, ?_, ?_, ?_, ?_⟩
  · rw [hkeyEq]
    exact dispatchKey_shape _
  · exact ⟨le_refl _, forall_mem_none, forall_mem_none, forall_mem_none, forall_mem_none,
      forall_mem_none⟩
  · exact fun c hc => absurd hc List.not_mem_nil
  · intro c _
    cases c <;> rfl
  · intro hcancelled
    cases hcancelled

/-- EXACT: preparing a prepared request changes nothing; a request that is equal up to the order of
    keys and of secret bindings is prepared alike; requests with one preimage are equal up to that
    order; and the row of a proposal is read again. -/
theorem effect_request_normal_form (rt : RequestRuntime) :
    (∀ (a : Json) (p : PreparedRequest), a.distinct = true → prepareEffectRequest rt a = .ok p →
      prepareEffectRequest rt p.request.json = .ok p ∧
      (∀ b : Json, b.distinct = true → Reordered a b → ∃ q, prepareEffectRequest rt b = .ok q ∧
        q.canonicalRequest = p.canonicalRequest ∧ q.requestDigest = p.requestDigest ∧
        q.request.json.canonical = p.request.json.canonical) ∧
      ∀ (b : Json) (q : PreparedRequest), b.distinct = true → prepareEffectRequest rt b = .ok q →
        p.preimage = q.preimage → Reordered a b) ∧
    ∀ (input : Json) (freshId : {id : String // IsUuidV7 id})
      (principalId : {id : String // id ≠ ""}) (now : ℕ) (row : EffectRow),
      input.distinct = true → proposeEffect rt input freshId principalId now = .ok row →
        ∃ e, parseEffect rt row = .ok (row, e) := by
  refine ⟨fun a p ha hp => ⟨prepare_prepared hp, fun b hb => prepare_reordered ha hb hp,
    fun b q hb hq => reordered_of_preimage ha hb hp hq⟩, ?_⟩
  exact fun input freshId principalId now row hinput h => parse_proposed hinput h

/-- A platform with one digest. -/
def plainRuntime : RequestRuntime where
  isHttps s := s = "https://e.org/send"
  sha256Hex _ := ⟨String.ofList (List.replicate 64 '0'), by decide⟩
  sha256Base64url _ := ⟨String.ofList (List.replicate 43 'A'), by decide⟩

/-- A digest of zeros. -/
def zeroDigest : String := String.ofList ("sha256:".toList ++ List.replicate 64 '0')

/-- The version of the schema and of the operation. -/
def sendVersion : ℕ+ := ⟨1, Nat.one_pos⟩

/-- A request with these secret bindings. -/
def sendRequest (bindings : List SecretBinding) : Envelope where
  workspaceId := "w"
  effectTypeUri := "https://e.org/send"
  effectSchemaVersion := sendVersion
  connector := ⟨"https://e.org/send", sendVersion, zeroDigest, "r", zeroDigest⟩
  parameters := []
  secretBindings := bindings

/-- Two bindings, out of order. -/
def sendBindings : List SecretBinding := [⟨"b", "r", "1", none⟩, ⟨"a", "r", "1", none⟩]

/-- An id of version 7. -/
def sendUuid : String := "00000000-0000-7000-8000-000000000000"

/-- A proposal of the request. -/
def sendProposal : Json :=
  .obj [("tenantId", .str "w"), ("taskId", .str sendUuid),
    ("request", (sendRequest sendBindings).json)]

/-- The lengths of the texts in the schema and in the request. -/
theorem send_lengths : "protocol".length = 8 ∧ "tasq.effect-request.v1".length = 22 ∧
    "canonicalization".length = 16 ∧ "tasq.jcs-safe-integer.v1".length = 24 ∧
    "digestAlgorithm".length = 15 ∧ "sha-256".length = 7 ∧ "workspaceId".length = 11 ∧
    "effectTypeUri".length = 13 ∧ "https://e.org/send".length = 18 ∧
    "effectSchemaVersion".length = 19 ∧ "connector".length = 9 ∧ "parameters".length = 10 ∧
    "secretBindings".length = 14 ∧ "operationUri".length = 12 ∧ "operationVersion".length = 16 ∧
    "contractDigest".length = 14 ∧ "instanceRef".length = 11 ∧ "bindingDigest".length = 13 ∧
    "tenantId".length = 8 ∧ "taskId".length = 6 ∧ "request".length = 7 ∧
    sendUuid.length = 36 ∧ zeroDigest.length = 71 :=
  ⟨String.length_ofList, String.length_ofList, String.length_ofList, String.length_ofList,
    String.length_ofList, String.length_ofList, String.length_ofList, String.length_ofList,
    String.length_ofList, String.length_ofList, String.length_ofList, String.length_ofList,
    String.length_ofList, String.length_ofList, String.length_ofList, String.length_ofList,
    String.length_ofList, String.length_ofList, String.length_ofList, String.length_ofList,
    String.length_ofList, String.length_ofList, String.length_ofList.trans (by decide)⟩

theorem weight_send : (sendRequest sendBindings).json.weight ≤ 8000 := by
  obtain ⟨h₁, h₂, h₃, h₄, h₅, h₆, h₇, h₈, h₉, h₁₀, h₁₁, h₁₂, h₁₃, h₁₄, h₁₅, h₁₆, h₁₇, h₁₈, -, -, -, -,
    h₁₉⟩ := send_lengths
  have hbindings : weightItems (sendBindings.map SecretBinding.json) ≤ 400 := by
    have hname : "name".length = 4 := String.length_ofList
    have href : "ref".length = 3 := String.length_ofList
    have hversion : "version".length = 7 := String.length_ofList
    have ha : "a".length = 1 := String.length_ofList
    have hb : "b".length = 1 := String.length_ofList
    have hr : "r".length = 1 := String.length_ofList
    have hone : "1".length = 1 := String.length_ofList
    simp [sendBindings, SecretBinding.json, SecretBinding.entries, present, weightItems, weight,
      weightFields, hname, href, hversion, ha, hb, hr, hone]
  have hnumber : bytes (num (sendVersion : ℕ)).serialize = 1 := by decide +kernel
  have hr : "r".length = 1 := String.length_ofList
  have hw : "w".length = 1 := String.length_ofList
  simp only [Envelope.json, sendRequest, ConnectorBinding.json, weight, weightFields, h₁, h₂, h₃,
    h₄, h₅, h₆, h₇, h₈, h₉, h₁₀, h₁₁, h₁₂, h₁₃, h₁₄, h₁₅, h₁₆, h₁₇, h₁₈, h₁₉, hr, hw, hnumber]
  generalize weightItems (sendBindings.map SecretBinding.json) = n at hbindings ⊢
  omega

theorem send_checks : (sendRequest sendBindings).json.safe = true ∧
    (sendRequest sendBindings).json.plain = true ∧ (sendRequest sendBindings).json.nodes ≤ 1000 ∧
    (sendRequest sendBindings).json.depth ≤ 10 := by
  decide +kernel

theorem within_send : Within effectLimits (sendRequest sendBindings).json := by
  obtain ⟨hsafe, hplain, hnodes, hdepth⟩ := send_checks
  exact ⟨hsafe, hplain, hnodes.trans (by decide), hdepth.trans (by decide),
    (bytes_le_weight _).trans (weight_send.trans (by decide))⟩

theorem send_distinct : (sendRequest sendBindings).json.distinct = true := envelope_distinct rfl

theorem send_reordered : Reordered (sendRequest sendBindings).json
    (sendRequest sendBindings.reverse).json :=
  ⟨_, _, rfl, List.Perm.swap _ _ _, rfl⟩

theorem send_parsed : parseEnvelope plainRuntime (sendRequest sendBindings).json =
    some (sendRequest sendBindings) :=
  parseEnvelope_eq_some.2 ⟨readEnvelope_json nofun, by decide +kernel⟩

theorem send_prepared : ∃ p, prepareEffectRequest plainRuntime (sendRequest sendBindings).json =
    .ok p := by
  have hsorted : (sendRequest sendBindings).sorted = sendRequest sendBindings.reverse := by
    decide +kernel
  refine ⟨_, prepareEffectRequest_eq_ok.2 ⟨sendRequest sendBindings, within_send, send_parsed, ?_,
    ?_, rfl⟩⟩
  · rw [hsorted]
    decide +kernel
  · rw [hsorted]
    exact (within_of_size (size_reordered send_distinct send_reordered)).2 within_send

/-- The id of the new effect. -/
def sendId : {id : String // IsUuidV7 id} := ⟨sendUuid, by decide +kernel⟩

theorem within_proposal : Within effectLimits sendProposal := by
  obtain ⟨hsafe, hplain, hnodes, hdepth⟩ := send_checks
  obtain ⟨-, -, -, -, -, -, -, -, -, -, -, -, -, -, -, -, -, -, h₁, h₂, h₃, h₄, -⟩ := send_lengths
  have hw : "w".length = 1 := String.length_ofList
  have hweight := weight_send
  have hbytes := bytes_le_weight sendProposal
  simp only [sendProposal, weight, weightFields, h₁, h₂, h₃, h₄, hw] at hbytes hweight
  refine ⟨?_, ?_, ?_, ?_, hbytes.trans ?_⟩
  · simp only [sendProposal, Json.safe, safeValues, hsafe, Bool.and_self]
  · simp only [sendProposal, plain, plainFields, hplain]
    decide
  · simp only [sendProposal, nodes, nodesFields]
    exact (show 1 + (1 + (1 + ((sendRequest sendBindings).json.nodes + 0))) ≤ 10000 by omega)
  · simp only [sendProposal, depth, depthFields]
    exact (show max 1 (max 1 (max ((sendRequest sendBindings).json.depth + 1) 0)) ≤ 32 by omega)
  · exact (show _ ≤ 65536 by omega)

/-- The proposal as the schema reads it. -/
def sendParsed : Proposal := ⟨none, "w", sendUuid, none, sendRequest sendBindings, none, none⟩

/-- The proposal writes a row. -/
theorem send_proposed :
    ∃ row, proposeEffect plainRuntime sendProposal sendId ⟨"p", by decide⟩ 0 = .ok row := by
  obtain ⟨p, hp⟩ := send_prepared
  have hread : readProposal plainRuntime sendProposal = some sendParsed := by
    have hrequest : (property sendProposal "request").bind (parseEnvelope plainRuntime) =
        some (sendRequest sendBindings) := send_parsed
    rw [readProposal, hrequest]
    rfl
  have hproposal : IsProposal sendParsed :=
    ⟨nofun, by decide, sendId.2, nofun, nofun, nofun, .inl rfl⟩
  obtain ⟨key, hkey⟩ : ∃ key, deriveEffectDispatchKey plainRuntime sendId p = .ok key := by
    obtain ⟨e, -, -, -, -, rfl⟩ := prepareEffectRequest_eq_ok.1 hp
    exact ⟨_, deriveEffectDispatchKey_eq_ok.2 ⟨sendId.2, isDigest_sha256 _, rfl⟩⟩
  refine ⟨proposedRow sendParsed p sendUuid key "p" 0, ?_⟩
  simp only [proposeEffect, bind_eq_ok, refuse_eq_ok, demand_eq_ok, pure_eq_ok, not_not]
  exact ⟨(), within_proposal, _, Option.filter_eq_some_iff.2 ⟨hread, decide_eq_true hproposal⟩, (),
    rfl, p, hp, key, hkey, rfl⟩

theorem effect_request_normal_form_send :
    ∃ p row, prepareEffectRequest plainRuntime (sendRequest sendBindings).json = .ok p ∧
      prepareEffectRequest plainRuntime p.request.json = .ok p ∧
      (∃ q, prepareEffectRequest plainRuntime (sendRequest sendBindings.reverse).json = .ok q ∧
        q.canonicalRequest = p.canonicalRequest ∧ q.requestDigest = p.requestDigest ∧
        q.request.json.canonical = p.request.json.canonical) ∧
      Reordered (sendRequest sendBindings).json p.request.json ∧
      proposeEffect plainRuntime sendProposal sendId ⟨"p", by decide⟩ 0 = .ok row ∧
      ∃ e, parseEffect plainRuntime row = .ok (row, e) := by
  obtain ⟨p, hp⟩ := send_prepared
  obtain ⟨row, hrow⟩ := send_proposed
  obtain ⟨hfixed, hreordered, hpreimage⟩ :=
    (effect_request_normal_form plainRuntime).1 _ p send_distinct hp
  exact ⟨p, row, hp, hfixed, hreordered _ (envelope_distinct rfl) send_reordered,
    hpreimage _ p (prepared_distinct send_distinct hp) hfixed rfl, hrow,
    (effect_request_normal_form plainRuntime).2 _ _ _ 0 row
      (by simp [sendProposal, distinct.eq_def (obj _), distinctFields, send_distinct]; decide) hrow⟩

end Tasq.Requests
