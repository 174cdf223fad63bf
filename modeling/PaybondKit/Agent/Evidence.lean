import PaybondKit.Agent.Types
import PaybondKit.Foundation.Collisions

/-!
# Evidence payloads from tool results

A vendor pack names the canonical field of each vendor field. The fields of a tool's result are
written into one record in the order in which the result has them, under their canonical names if
the pack has one and under their own names otherwise, so two of them may meet under one name.
-/

namespace PaybondKit.Completion

open OrderedDict Agent

inductive CompletionPresetKind where
  | archetype
  | vendorPack
  deriving DecidableEq, Repr

/-- A preset of the catalog, as far as evidence payloads read it. -/
structure CompletionPreset where
  presetId : String
  harborTemplateId : String
  parameters : OrderedDict String PyValue
  evidenceSchema : OrderedDict String PyValue
  sampleEvidence : OrderedDict String PyValue
  kind : Option String := none
  archetypePresetId : Option String := none
  evidenceFieldMap : Option (OrderedDict String String) := none

structure ResolvedCompletionPreset where
  preset : CompletionPreset
  archetype : CompletionPreset
  kind : CompletionPresetKind
  harborTemplateId : String
  parameters : OrderedDict String PyValue
  evidenceSchema : OrderedDict String PyValue

def presetKind (preset : CompletionPreset) : CompletionPresetKind :=
  if preset.kind = some "vendor_pack" then .vendorPack else .archetype

def isVendorPack (preset : CompletionPreset) : Bool := presetKind preset = .vendorPack

def getCompletionPreset (catalog : List CompletionPreset) (presetId : String) :
    Except PyExc CompletionPreset :=
  match catalog.find? (·.presetId = presetId) with
  | some preset => .ok preset
  | none => .error (.valueError s!"unknown completion preset: {presetId}")

def resolveCompletionPreset (catalog : List CompletionPreset) (presetId : String) :
    Except PyExc ResolvedCompletionPreset := do
  let preset ← getCompletionPreset catalog presetId
  if !isVendorPack preset then
    return { preset
             archetype := preset
             kind := .archetype
             harborTemplateId := preset.harborTemplateId
             parameters := preset.parameters
             evidenceSchema := preset.evidenceSchema }
  match truthyStr preset.archetypePresetId with
  | none => throw (.valueError s!"vendor pack {presetId} missing archetype_preset_id")
  | some archetypeId => do
      let archetype ← getCompletionPreset catalog archetypeId
      return { preset
               archetype
               kind := .vendorPack
               harborTemplateId := archetype.harborTemplateId
               parameters := archetype.parameters.update preset.parameters
               evidenceSchema := preset.evidenceSchema }

section Mapping

variable (preset : CompletionPreset)

/-- The field that a preset maps the vendor's field to. -/
def mapped? (vendorKey : String) : Option String :=
  (preset.evidenceFieldMap.getD .empty).get? vendorKey

def canonicalKey (vendorKey : String) : String := (mapped? preset vendorKey).getD vendorKey

/-- The value under a canonical name, which is a list where artifacts are listed. -/
def canonicalValue (key : String) (value : PyValue) : PyValue :=
  if key = "artifact_blake3_hex" then
    match value with
    | .list _ => value
    | _ => .list [value]
  else value

def canonicalItem (item : String × PyValue) : String × PyValue :=
  (canonicalKey preset item.1, canonicalValue (canonicalKey preset item.1) item.2)

def mapVendorEvidenceToCanonical (vendorEvidence : OrderedDict String PyValue) :
    OrderedDict String PyValue :=
  ofList (vendorEvidence.items.map (canonicalItem preset))

end Mapping

section Webhooks

def stripeFundingEventTypes : List String :=
  ["payment_intent.succeeded", "payment_intent.payment_failed", "payment_intent.canceled",
    "payment_intent.processing", "payment_intent.requires_action",
    "payment_intent.amount_capturable_updated", "charge.succeeded", "charge.failed",
    "charge.pending", "charge.refunded", "charge.updated", "charge.dispute.created",
    "charge.dispute.closed"]

def stripeFundingEventPrefixes : List String :=
  ["payment_intent.", "charge.", "payout.", "mandate."]

/-- `_read_string`: the first of the keys with a string that is not blank. -/
def readString (record : OrderedDict String PyValue) (keys : List String) : Option String :=
  keys.findSome? fun key =>
    match record.get? key with
    | some (.str text) => truthyStr (some (pyStrip text))
    | _ => none

def isStripeFundingEventType (eventType : String) : Bool :=
  eventType ∈ stripeFundingEventTypes || stripeFundingEventPrefixes.any (eventType.startsWith ·)

/-- A non-empty object under `data.object`. -/
def hasDataObject (record : OrderedDict String PyValue) : Bool :=
  match record.get? "data" with
  | some (.dict data) =>
      match (ofList data).get? "object" with
      | some (.dict object) => !object.isEmpty
      | _ => false
  | _ => false

def assertNotStripeFundingWebhook (inputRecord : OrderedDict String PyValue) :
    Except PyExc Unit := do
  if readString inputRecord ["object"] = some "event" then
    throw (.valueError "Stripe event webhooks are funding signals, not tool-completion evidence")
  let eventType := readString inputRecord ["type", "event_type", "eventType"]
  if let some eventType := eventType then
    if isStripeFundingEventType eventType then
      throw (.valueError
        s!"{eventType} webhooks are funding signals, not tool-completion evidence")
  if (readString inputRecord ["id"]).any (·.startsWith "evt_") && eventType.isSome then
    throw (.valueError "Stripe event webhooks are funding signals, not tool-completion evidence")
  if hasDataObject inputRecord then
    throw (.valueError ("Stripe webhook data.object envelopes are funding signals, " ++
      "not tool-completion evidence"))
  if inputRecord.contains "pending_webhooks" && eventType.isSome then
    throw (.valueError "Stripe event webhooks are funding signals, not tool-completion evidence")

def assertToolResultNotFundingWebhook (toolResult : PyValue) : Except PyExc Unit :=
  match toolResult with
  | .dict items => assertNotStripeFundingWebhook (ofList items)
  | _ => .ok ()

end Webhooks

/-- `build_auto_evidence_payload`; `run` runs the mapper of a registry entry. -/
def buildAutoEvidencePayload (catalog : List CompletionPreset)
    (run : Callback → PyValue → PaybondToolCallContext → Except PyExc PyValue)
    (entry : PaybondSideEffectingToolEntry) (toolResult : PyValue) (ctx : PaybondToolCallContext) :
    Except PyExc (OrderedDict String PyValue) := do
  assertToolResultNotFundingWebhook toolResult
  if let some mapper := entry.evidenceMapper then
    match ← run mapper toolResult ctx with
    | .dict items => return ofList items
    | _ => throw (.valueError "evidence_mapper must return a JSON object payload")
  let resolved ← resolveCompletionPreset catalog entry.evidencePreset
  if isVendorPack resolved.preset then
    match toolResult with
    | .dict items => return mapVendorEvidenceToCanonical resolved.preset (ofList items)
    | _ =>
        throw (.valueError (s!"side-effecting tool \"{ctx.toolName}\" uses vendor pack preset " ++
          s!"\"{entry.evidencePreset}\"; provide evidence_mapper when tool result is not a dict"))
  match toolResult with
  | .dict items => return ofList items
  | _ => return resolved.archetype.sampleEvidence

/-- A dict that is no webhook is mapped if its preset is a vendor pack. -/
theorem buildAutoEvidencePayload_of_vendorPack {catalog : List CompletionPreset}
    {run : Callback → PyValue → PaybondToolCallContext → Except PyExc PyValue}
    {entry : PaybondSideEffectingToolEntry} {resolved : ResolvedCompletionPreset}
    {items : List (String × PyValue)} {ctx : PaybondToolCallContext}
    (hmapper : entry.evidenceMapper = none)
    (hresolved : resolveCompletionPreset catalog entry.evidencePreset = .ok resolved)
    (hpack : isVendorPack resolved.preset = true)
    (hwebhook : assertNotStripeFundingWebhook (ofList items) = .ok ()) :
    buildAutoEvidencePayload catalog run entry (.dict items) ctx =
      .ok (mapVendorEvidenceToCanonical resolved.preset (ofList items)) := by
  have hassert : assertToolResultNotFundingWebhook (.dict items) = .ok () := hwebhook
  unfold buildAutoEvidencePayload
  rw [hassert, hmapper, hresolved]
  simp [bind, Except.bind, hpack, pure, Except.pure]

section Canonical

variable {preset : CompletionPreset} {evidence : OrderedDict String PyValue}

/-- No two vendor fields are mapped to one canonical field. -/
def InjectiveMap (preset : CompletionPreset) : Prop :=
  ∀ first second key, mapped? preset first = some key → mapped? preset second = some key →
    first = second

/-- The evidence has one record, whatever its order, in which each field that the preset maps has
the vendor's value. -/
structure MapsToOneRecord (preset : CompletionPreset) (evidence : OrderedDict String PyValue) :
    Prop where
  sameRecord : ∀ ordering : OrderedDict String PyValue, ordering.items.Perm evidence.items →
    ∀ key, (mapVendorEvidenceToCanonical preset ordering).get? key =
      (mapVendorEvidenceToCanonical preset evidence).get? key
  vendorValue : ∀ vendorKey value key, evidence.get? vendorKey = some value →
    mapped? preset vendorKey = some key →
      (mapVendorEvidenceToCanonical preset evidence).get? key = some (canonicalValue key value)

/-- A field of the evidence that has the canonical name of another, and is not mapped itself, has
the value of that other one. -/
def CanonicalNamesFree (preset : CompletionPreset) (evidence : OrderedDict String PyValue) : Prop :=
  ∀ vendorKey value key other, evidence.get? vendorKey = some value →
    mapped? preset vendorKey = some key → mapped? preset key = none →
      evidence.get? key = some other → canonicalValue key other = canonicalValue key value

theorem canonicalItem_of_mapped {item : String × PyValue} {key : String}
    (hmapped : mapped? preset item.1 = some key) :
    canonicalItem preset item = (key, canonicalValue key item.2) := by
  simp [canonicalItem, canonicalKey, hmapped]

theorem canonicalItem_of_unmapped {item : String × PyValue}
    (hmapped : mapped? preset item.1 = none) :
    canonicalItem preset item = (item.1, canonicalValue item.1 item.2) := by
  simp [canonicalItem, canonicalKey, hmapped]

/-- Under an injective map a mapped field can only meet an unmapped one. -/
theorem agree_canonicalItem_iff (hinjective : InjectiveMap preset) :
    Agree (evidence.items.map (canonicalItem preset)) ↔ CanonicalNamesFree preset evidence := by
  constructor
  · intro hagree vendorKey value key other hvalue hmapped hunmapped hother
    have hvendor := List.mem_map_of_mem (f := canonicalItem preset) (get?_eq_some_iff.mp hvalue)
    have hplain := List.mem_map_of_mem (f := canonicalItem preset) (get?_eq_some_iff.mp hother)
    have hvendorItem := @canonicalItem_of_mapped preset (vendorKey, value) key hmapped
    have hplainItem := @canonicalItem_of_unmapped preset (key, other) hunmapped
    rw [hvendorItem] at hvendor
    rw [hplainItem] at hplain
    exact hagree _ hplain _ hvendor rfl
  · intro hfree first hfirst second hsecond hkey
    obtain ⟨item, hitem, rfl⟩ := List.mem_map.mp hfirst
    obtain ⟨other, hother, rfl⟩ := List.mem_map.mp hsecond
    have hvalue := get?_eq_some_iff.mpr hitem
    have hvalue' := get?_eq_some_iff.mpr hother
    cases hmapped : mapped? preset item.1 with
    | none =>
        rw [canonicalItem_of_unmapped hmapped] at hkey ⊢
        cases hmapped' : mapped? preset other.1 with
        | none =>
            rw [canonicalItem_of_unmapped hmapped'] at hkey ⊢
            have hname : item.1 = other.1 := hkey
            have hsame : item.2 = other.2 := by
              rw [hname, hvalue'] at hvalue
              exact (Option.some.inj hvalue).symm
            rw [hname, hsame]
        | some key =>
            rw [canonicalItem_of_mapped hmapped'] at hkey ⊢
            have hname : item.1 = key := hkey
            rw [hname] at hvalue hmapped ⊢
            exact hfree _ _ _ _ hvalue' hmapped' hmapped hvalue
    | some key =>
        rw [canonicalItem_of_mapped hmapped] at hkey ⊢
        cases hmapped' : mapped? preset other.1 with
        | none =>
            rw [canonicalItem_of_unmapped hmapped'] at hkey ⊢
            have hname : key = other.1 := hkey
            subst hname
            exact (hfree _ _ _ _ hvalue hmapped hmapped' hvalue').symm
        | some key' =>
            rw [canonicalItem_of_mapped hmapped'] at hkey ⊢
            have hname : key = key' := hkey
            subst hname
            have hvendor : item.1 = other.1 := hinjective _ _ _ hmapped hmapped'
            have hsame : item.2 = other.2 := by
              rw [hvendor, hvalue'] at hvalue
              exact (Option.some.inj hvalue).symm
            rw [hsame]

/-- The records of all orders agree just if the fields that meet do. -/
theorem agree_canonicalItem_iff_sameRecord :
    Agree (evidence.items.map (canonicalItem preset)) ↔
      ∀ ordering : OrderedDict String PyValue, ordering.items.Perm evidence.items →
        ∀ key, (mapVendorEvidenceToCanonical preset ordering).get? key =
          (mapVendorEvidenceToCanonical preset evidence).get? key := by
  rw [agree_iff_forall_perm]
  constructor
  · intro hsame ordering hperm key
    exact hsame ordering.items hperm key
  · intro hsame items hperm key
    have hnodup : (items.map Prod.fst).Nodup :=
      (hperm.map Prod.fst).nodup_iff.mpr evidence.nodup
    exact hsame ⟨items, hnodup⟩ hperm key

/-- The records of all orders are one, with the vendor's values, just if no unmapped field of the
evidence takes the canonical name of a mapped one. -/
theorem mapsToOneRecord_iff (hinjective : InjectiveMap preset) :
    MapsToOneRecord preset evidence ↔ CanonicalNamesFree preset evidence := by
  rw [← agree_canonicalItem_iff hinjective]
  constructor
  · intro hrecord
    exact agree_canonicalItem_iff_sameRecord.mpr hrecord.sameRecord
  · intro hagree
    refine ⟨agree_canonicalItem_iff_sameRecord.mp hagree, ?_⟩
    intro vendorKey value key hvalue hmapped
    have hitem := @canonicalItem_of_mapped preset (vendorKey, value) key hmapped
    have hmem : (key, canonicalValue key value) ∈ evidence.items.map (canonicalItem preset) :=
      List.mem_map.mpr ⟨(vendorKey, value), get?_eq_some_iff.mp hvalue, hitem⟩
    exact get?_ofList_of_agree hagree hmem

end Canonical

section Stripe

def stripeCharge : CompletionPreset where
  presetId := "stripe_charge"
  harborTemplateId := "api_response_v1"
  parameters := ofList [("http_status_path", .list [.str "http_status"]),
    ("expected_http_status", .int 200)]
  evidenceSchema := ofList [("type", .str "object"),
    ("properties", .dict [("http_status", .dict [("type", .str "integer")]),
      ("vendor_ref_id", .dict [("type", .str "string")]),
      ("response_digest", .dict [("type", .str "string")])]),
    ("required", .list [.str "http_status", .str "vendor_ref_id", .str "response_digest"])]
  sampleEvidence := ofList [("http_status", .int 200), ("vendor_ref_id", .str "ch_3NxExample"),
    ("response_digest",
      .str "blake3:7f83b1657ff1fc53b92dc18148a1d65dfc2d4b1fa3d677284addd200126d9069")]
  kind := some "vendor_pack"
  archetypePresetId := some "api_response_ok"
  evidenceFieldMap := some (ofList [("charge_id", "vendor_ref_id"), ("http_status", "http_status"),
    ("response_digest", "response_digest")])

theorem injectiveMap_stripeCharge : InjectiveMap stripeCharge := by
  have hentries : ∀ first ∈ (stripeCharge.evidenceFieldMap.getD .empty).items,
      ∀ second ∈ (stripeCharge.evidenceFieldMap.getD .empty).items,
        first.2 = second.2 → first.1 = second.1 := by decide +kernel
  intro first second key hfirst hsecond
  exact hentries (first, key) (get?_eq_some_iff.mp hfirst) (second, key)
    (get?_eq_some_iff.mp hsecond) rfl

def chargeEvidence : OrderedDict String PyValue :=
  ofList [("charge_id", .str "ch_123"), ("http_status", .int 200)]

theorem canonicalNamesFree_chargeEvidence : CanonicalNamesFree stripeCharge chargeEvidence := by
  have hpresent : ∀ item ∈ (stripeCharge.evidenceFieldMap.getD .empty).items,
      mapped? stripeCharge item.2 = none → chargeEvidence.contains item.2 = false := by
    decide +kernel
  intro vendorKey value key other _ hmapped hunmapped hother
  have habsent := hpresent (vendorKey, key) (get?_eq_some_iff.mp hmapped) hunmapped
  simp [contains, hother] at habsent

theorem mapsToOneRecord_iff_charge : MapsToOneRecord stripeCharge chargeEvidence :=
  (mapsToOneRecord_iff injectiveMap_stripeCharge).mpr canonicalNamesFree_chargeEvidence

/-- The tool's result has a field of its own with the canonical name of the charge. -/
def shadowedEvidence : OrderedDict String PyValue :=
  ofList [("charge_id", .str "ch_123"), ("vendor_ref_id", .str "order_7")]

theorem not_mapsToOneRecord_shadowed :
    ¬∀ preset evidence, InjectiveMap preset → MapsToOneRecord preset evidence := by
  intro hall
  have hvalue := (hall _ shadowedEvidence injectiveMap_stripeCharge).vendorValue "charge_id"
    (.str "ch_123") "vendor_ref_id" rfl rfl
  have hshadowed : (mapVendorEvidenceToCanonical stripeCharge shadowedEvidence).get?
      "vendor_ref_id" = some (.str "order_7") := rfl
  rw [hshadowed] at hvalue
  simp [canonicalValue] at hvalue

end Stripe

end PaybondKit.Completion
