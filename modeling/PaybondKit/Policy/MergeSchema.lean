import PaybondKit.Policy.DigestForm
import PaybondKit.Policy.MergeOperations

/-!
# Merges stay in the schema

Every field of a merged policy comes from a layer whose parser checked it, and the finished
tool entries are checked again. What a merge does not check is that there is a tool: the
base may itself be an overlay that declares none.
-/

namespace PaybondKit.Policy

open Merging

/-! ## Layers of the schema -/

/-- What holds of a dict holds of its members. -/
def Hereditary (P : PyValue → Prop) : Prop :=
  ∀ items, P (.dict items) → ∀ item ∈ items, P item.2

section Admits

variable (P : PyValue → Prop)

/-- A budget of the schema whose values satisfy `P`. -/
structure BudgetAdmits (budget : OrderedDict String PyValue) : Prop extends
    BudgetSchemaValid budget where
  values : ∀ item ∈ budget.items, P item.2

structure IntentAdmits (intent : PaybondPolicyIntentSection) : Prop where
  policy_binding : ∀ binding ∈ intent.policyBinding, binding.SchemaValid
  budget : ∀ budget ∈ intent.budget, BudgetAdmits P budget
  allowed_tools : AllowedToolsSchemaValid intent.allowedTools

/-- A flat document of the schema, but that it may have no tool. -/
structure DocumentAdmits (document : PaybondPolicyDocumentV1) : Prop where
  name : policyNameRe document.name = true
  tools : ToolsSchemaValid document.tools
  intent : ∀ intent ∈ document.intent, IntentAdmits P intent
  adapter : ∀ adapter ∈ document.adapter, adapter.denyProviderExecutedTools.isSome

structure ToolOverrideAdmits (entry : PaybondPolicyToolOverrideEntry) : Prop where
  max_spend_cents : ∀ cap ∈ entry.maxSpendCents, 0 ≤ cap
  spend_from_args : ∀ path ∈ entry.spendFromArgs, jsonPathRe path = true
  evidence_preset : ∀ preset ∈ entry.evidencePreset, identifierRe preset = true
  vendor_pack : ∀ vendorPack ∈ entry.vendorPack, identifierRe vendorPack = true
  operation : ∀ operation ∈ entry.operation, operation ≠ "" ∧ operation.length ≤ 128

structure BindingOverrideAdmits (binding : PaybondPolicyBindingOverride) : Prop where
  template_id : ∀ templateId ∈ binding.templateId, identifierRe templateId = true
  version_seq : ∀ versionSeq ∈ binding.versionSeq, 1 ≤ versionSeq
  head_digest : ∀ headDigest ∈ binding.headDigest, headDigestRe headDigest = true

structure IntentOverrideAdmits (intent : PaybondPolicyIntentOverrideSection) : Prop where
  policy_binding : ∀ binding ∈ intent.policyBinding, BindingOverrideAdmits binding
  budget : ∀ budget ∈ intent.budget, BudgetAdmits P budget
  allowed_tools : AllowedToolsSchemaValid intent.allowedTools

structure OverridesAdmit (overrides : PaybondPolicyOverrides) : Prop where
  tools : ∀ tools ∈ overrides.tools, ∀ item ∈ tools.items, ToolOverrideAdmits item.2
  intent : ∀ intent ∈ overrides.intent, IntentOverrideAdmits P intent
  adapter : ∀ adapter ∈ overrides.adapter, adapter.denyProviderExecutedTools.isSome

structure OverlayAdmits (overlay : PaybondPolicyDocumentV2) : Prop where
  document : DocumentAdmits P (baseDocumentToEffectiveV1 (.v2 overlay))
  overrides : ∀ overrides ∈ overlay.overrides, OverridesAdmit P overrides

end Admits

theorem DocumentAdmits.schemaValid_iff {P : PyValue → Prop} {document : PaybondPolicyDocumentV1}
    (hadmits : DocumentAdmits P document) :
    document.SchemaValid ↔ document.tools.items ≠ [] := by
  refine ⟨fun hvalid => hvalid.tools_nonempty, fun hnonempty => ?_⟩
  refine ⟨hadmits.name, hnonempty, hadmits.tools, fun intent hintent => ?_, hadmits.adapter⟩
  have hintent := hadmits.intent intent hintent
  exact ⟨hintent.policy_binding, fun budget hbudget =>
    (hintent.budget budget hbudget).toBudgetSchemaValid, hintent.allowed_tools⟩

/-! ## What the parsers admit -/

section Parse

variable {P : PyValue → Prop} {α : Type}

theorem expectMapping_values (hP : Hereditary P) {raw : PyValue} {path : String}
    {mapping : OrderedDict String PyValue} (hraw : P raw)
    (hmapping : expectMapping raw path = .ok mapping) : ∀ item ∈ mapping.items, P item.2 := by
  unfold expectMapping at hmapping
  split at hmapping
  next items =>
    obtain rfl := Except.ok.inj hmapping
    exact fun item hitem => hP items hraw item (OrderedDict.mem_of_mem_ofList hitem)
  next => cases hmapping

/-- An optional field whose parser may count on the value satisfying `P`. -/
theorem optionalAt_admits {parse : PyValue → String → Parsed α} {q : α → Prop}
    (hparse : ∀ raw path value, P raw → parse raw path = .ok value → q value)
    {mapping : OrderedDict String PyValue} {field path : String} {result : Option α}
    (hmapping : ∀ item ∈ mapping.items, P item.2)
    (hresult : optionalAt mapping field path parse = .ok result) : ∀ value ∈ result, q value := by
  unfold optionalAt at hresult
  split at hresult
  · cases hresult
    simp
  next raw hget =>
    obtain ⟨value, hvalue, rfl⟩ := except_map_eq_ok.mp hresult
    have hraw := hmapping _ (OrderedDict.get?_eq_some_iff.mp hget)
    simpa using hparse _ _ _ hraw hvalue

theorem parseBudget_admits (hP : Hereditary P) (raw : PyValue) (path : String)
    (budget : OrderedDict String PyValue) (hraw : P raw)
    (hbudget : parseBudget raw path = .ok budget) : BudgetAdmits P budget where
  toBudgetSchemaValid := reads_budget.guarantees raw path budget hbudget
  values := by
    simp only [parseBudget, except_bind_eq_ok] at hbudget
    obtain ⟨mapping, hmapping, -, -, hrest⟩ := hbudget
    obtain rfl : mapping = budget := by
      split at hrest
      · exact Except.ok.inj hrest
      · split at hrest
        · cases hrest
        · exact Except.ok.inj (except_guard_eq_ok.mp hrest).2
    exact expectMapping_values hP hraw hmapping

theorem parseIntent_admits (hP : Hereditary P) (raw : PyValue) (path : String)
    (intent : PaybondPolicyIntentSection) (hraw : P raw)
    (hintent : parseIntent raw path = .ok intent) : IntentAdmits P intent := by
  simp only [parseIntent, except_bind_eq_ok, except_pure_eq_ok] at hintent
  obtain ⟨mapping, hmapping, _, -, binding, hbinding, budget, hbudget, allowedTools, hallowed,
    rfl⟩ := hintent
  have hvalues := expectMapping_values hP hraw hmapping
  exact
    { policy_binding := optionalAt_guarantees reads_policyBinding.guarantees hbinding
      budget := optionalAt_admits (parseBudget_admits hP) hvalues hbudget
      allowed_tools := parseAllowedTools_guarantees hallowed }

theorem parseIntentOverride_admits (hP : Hereditary P) (raw : PyValue) (path : String)
    (intent : PaybondPolicyIntentOverrideSection) (hraw : P raw)
    (hintent : parseIntentOverride raw path = .ok intent) : IntentOverrideAdmits P intent := by
  simp only [parseIntentOverride, except_bind_eq_ok, except_pure_eq_ok] at hintent
  obtain ⟨mapping, hmapping, _, -, _, -, binding, hbinding, budget, hbudget, allowedTools,
    hallowed, rfl⟩ := hintent
  have hvalues := expectMapping_values hP hraw hmapping
  refine ⟨optionalAt_guarantees ?_ hbinding,
    optionalAt_admits (parseBudget_admits hP) hvalues hbudget,
    parseAllowedTools_guarantees hallowed⟩
  intro raw path binding hbinding
  simp only [parsePolicyBindingOverride, except_bind_eq_ok, except_pure_eq_ok] at hbinding
  obtain ⟨mapping, -, _, -, _, -, templateId, htemplate, versionSeq, hversion, headDigest, hhead,
    rfl⟩ := hbinding
  exact
    { template_id := optionalAt_guarantees (reads_pattern _ (by decide)).guarantees htemplate
      version_seq := optionalAt_guarantees (reads_int 1).guarantees hversion
      head_digest := optionalAt_guarantees (reads_pattern _ (by decide)).guarantees hhead }

theorem parseToolOverrideEntry_admits :
    Guarantees parseToolOverrideEntry ToolOverrideAdmits := by
  intro raw path entry hentry
  simp only [parseToolOverrideEntry, except_bind_eq_ok, except_pure_eq_ok] at hentry
  obtain ⟨mapping, -, _, -, _, -, sideEffecting, -, cap, hcap, argsPath, hargs, _, -, preset,
    hpreset, vendorPack, hpack, operation, hoperation, _, -, rfl⟩ := hentry
  exact
    { max_spend_cents := optionalAt_guarantees (reads_int 0).guarantees hcap
      spend_from_args := optionalAt_guarantees (reads_pattern _ (by decide)).guarantees hargs
      evidence_preset := optionalAt_guarantees (reads_pattern _ (by decide)).guarantees hpreset
      vendor_pack := optionalAt_guarantees (reads_pattern _ (by decide)).guarantees hpack
      operation := optionalAt_guarantees (reads_shortStr 128).guarantees hoperation }

theorem parseOverrideTools_admits : Guarantees parseOverrideTools fun tools =>
    ∀ item ∈ tools.items, ToolOverrideAdmits item.2 := by
  intro raw path tools htools item hitem
  unfold parseOverrideTools at htools
  split at htools
  · exact parseToolItems_guarantees parseToolOverrideEntry_admits htools item.1 item.2
      (OrderedDict.get?_eq_some_iff.mpr hitem)
  · cases htools

theorem parseOverrides_admits (hP : Hereditary P) (raw : PyValue) (path : String)
    (overrides : PaybondPolicyOverrides) (hraw : P raw)
    (hoverrides : parseOverrides raw path = .ok overrides) : OverridesAdmit P overrides := by
  simp only [parseOverrides, except_bind_eq_ok] at hoverrides
  obtain ⟨mapping, hmapping, _, -, deny, -, tools, htools, intent, hintent, adapter, hadapter,
    hrest⟩ := hoverrides
  obtain ⟨-, hrest⟩ := except_guard_eq_ok.mp hrest
  obtain rfl := Except.ok.inj hrest
  have hvalues := expectMapping_values hP hraw hmapping
  exact
    { tools := optionalAt_guarantees parseOverrideTools_admits htools
      intent := optionalAt_admits (parseIntentOverride_admits hP) hvalues hintent
      adapter := optionalAt_guarantees reads_adapter.guarantees hadapter }

theorem parsePaybondPolicyDocumentV1_admits (hP : Hereditary P) {raw : PyValue} (hraw : P raw)
    {document : PaybondPolicyDocumentV1}
    (hdocument : parsePaybondPolicyDocumentV1 raw = .ok document) :
    DocumentAdmits P document := by
  simp only [parsePaybondPolicyDocumentV1, except_bind_eq_ok, except_pure_eq_ok] at hdocument
  obtain ⟨doc, hdoc, _, -, _, -, name, hname, defaultDeny, -, tools, htools, intent, hintent,
    adapter, hadapter, rfl⟩ := hdocument
  have hvalues := expectMapping_values hP hraw hdoc
  exact
    { name := (expectPattern_eq_ok hname).2.2
      tools := parseToolsMap_schemaValid htools
      intent := optionalAt_admits (parseIntent_admits hP) hvalues hintent
      adapter := optionalAt_guarantees reads_adapter.guarantees hadapter }

theorem parsePaybondPolicyDocumentV2_admits (hP : Hereditary P) {raw : PyValue} (hraw : P raw)
    {document : PaybondPolicyDocumentV2}
    (hdocument : parsePaybondPolicyDocumentV2 raw = .ok document) :
    OverlayAdmits P document := by
  simp only [parsePaybondPolicyDocumentV2, except_bind_eq_ok, except_pure_eq_ok] at hdocument
  obtain ⟨doc, hdoc, _, -, _, -, name, hname, defaultDeny, -, base, -, overrides, hoverrides,
    tools, htools, intent, hintent, adapter, hadapter, rfl⟩ := hdocument
  have hvalues := expectMapping_values hP hraw hdoc
  exact
    { document :=
        { name := (expectPattern_eq_ok hname).2.2
          tools := parseToolsMap_schemaValid htools
          intent := optionalAt_admits (parseIntent_admits hP) hvalues hintent
          adapter := optionalAt_guarantees reads_adapter.guarantees hadapter }
      overrides := optionalAt_admits (parseOverrides_admits hP) hvalues hoverrides }

theorem parsePaybondPolicyDocument_admits (hP : Hereditary P) {raw : PyValue} (hraw : P raw)
    {document : PaybondPolicyDocument}
    (hdocument : parsePaybondPolicyDocument raw = .ok document) :
    DocumentAdmits P (baseDocumentToEffectiveV1 document) := by
  obtain ⟨doc, -, hrest⟩ := except_bind_eq_ok.mp hdocument
  split at hrest
  · obtain ⟨flat, hflat, rfl⟩ := except_map_eq_ok.mp hrest
    exact parsePaybondPolicyDocumentV1_admits hP hraw hflat
  · split at hrest
    · obtain ⟨overlay, hoverlay, rfl⟩ := except_map_eq_ok.mp hrest
      exact (parsePaybondPolicyDocumentV2_admits hP hraw hoverlay).document
    · cases hrest

end Parse

/-! ## What the merge keeps -/

section Tools

variable {base : PaybondPolicyToolEntry} {patch : PaybondPolicyToolOverrideEntry}
variable {toolName : String} {report : PolicyMergeReport}

/-- A patched entry is one of the schema: its fields come from the two layers, and how they
go together is checked. -/
theorem patchedEntry_schemaValid (hbase : base.SchemaValid) (hpatch : ToolOverrideAdmits patch)
    (hdenied : (mergeToolFields base patch toolName report).denied = []) :
    (patchedEntry base patch).SchemaValid := by
  have hvalue := mergeToolFields_value hdenied
  simp only [mergeToolFields, bind_denied, bind_value, pure_value, pure_denied] at hdenied hvalue
  obtain ⟨-, -, -, -, -, -, hchecked, -⟩ := hdenied
  rw [hvalue] at hchecked
  simp only [checkMergedEntry, bind_denied, denyIf_denied] at hchecked
  obtain ⟨hevidence, hspend⟩ := hchecked
  have hor : ∀ {α : Type} {first second : Option α} {p : α → Prop}, (∀ a ∈ first, p a) →
      (∀ a ∈ second, p a) → ∀ a ∈ first.or second, p a := by
    intro α first second p hfirst hsecond a ha
    rcases Option.or_eq_some_iff.mp ha with ha | ⟨-, ha⟩
    · exact hfirst a ha
    · exact hsecond a ha
  have hite : ∀ {α : Type} {condition : Bool} {value : Option α} {p : α → Prop},
      (∀ a ∈ value, p a) → ∀ a ∈ (if condition then none else value), p a := by
    intro α condition value p hvalue a ha
    split at ha
    · cases ha
    · exact hvalue a ha
  exact
    { max_spend_cents := hite (hor hpatch.max_spend_cents hbase.max_spend_cents)
      spend_from_args := hor hpatch.spend_from_args (hite hbase.spend_from_args)
      spend_exclusive := by
        by_contra hboth
        rw [not_or] at hboth
        exact hspend ⟨Option.isSome_iff_ne_none.mpr hboth.1, Option.isSome_iff_ne_none.mpr hboth.2⟩
      evidence_preset := hor hpatch.evidence_preset hbase.evidence_preset
      evidence_required := by
        intro hside
        by_contra hnone
        rw [Option.not_isSome_iff_eq_none] at hnone
        exact hevidence ⟨hside, by rw [hnone]; rfl⟩
      vendor_pack := hor hpatch.vendor_pack hbase.vendor_pack
      operation := hor hpatch.operation hbase.operation }

end Tools

theorem intersectAllowedTools_schemaValid {org tenant : Option (List String)}
    (horg : ∀ names ∈ org, AllowedToolsSchemaValid names)
    (htenant : ∀ names ∈ tenant, AllowedToolsSchemaValid names) :
    ∀ names ∈ (intersectAllowedTools org tenant).value, AllowedToolsSchemaValid names := by
  rcases tenant with _ | _ | ⟨tool, tenant⟩
  · cases org <;> exact horg
  · cases org <;> exact horg
  · rcases org with _ | _ | ⟨orgTool, org⟩
    · exact htenant
    · exact htenant
    · intro names hnames
      obtain rfl : (tool :: tenant).filter (· ∈ orgTool :: org) = names :=
        Option.some.inj hnames
      have hvalid := htenant (tool :: tenant) rfl
      exact ⟨hvalid.nodup.filter _,
        fun name hname => hvalid.names name (List.mem_of_mem_filter hname)⟩

section Binding

variable {base overlay : Option PaybondPolicyBinding}
variable {override : Option PaybondPolicyBindingOverride}

theorem mem_truthyStr {value : Option String} {text : String} (htext : text ∈ truthyStr value) :
    text ∈ value :=
  (Option.filter_eq_some_iff.mp htext).1

theorem mergePolicyBinding_schemaValid (hbase : ∀ binding ∈ base, binding.SchemaValid)
    (hoverlay : ∀ binding ∈ overlay, binding.SchemaValid)
    (hoverride : ∀ binding ∈ override, BindingOverrideAdmits binding) :
    ∀ binding ∈ (mergePolicyBinding base overlay override).value, binding.SchemaValid := by
  unfold mergePolicyBinding
  split
  next => nofun
  next templateId htemplate =>
    intro binding hbinding
    obtain rfl := Option.some.inj hbinding
    have htemplateId : identifierRe templateId = true := by
      rcases Option.or_eq_some_iff.mp htemplate with htenant | ⟨-, horg⟩
      · rcases Option.or_eq_some_iff.mp htenant with hinner | ⟨-, houter⟩
        · obtain ⟨layer, hlayer, hid⟩ := Option.bind_eq_some_iff.mp (mem_truthyStr hinner)
          exact (hoverride layer hlayer).template_id templateId hid
        · obtain ⟨layer, hlayer, rfl⟩ := Option.map_eq_some_iff.mp (mem_truthyStr houter)
          exact (hoverlay layer hlayer).template_id
      · obtain ⟨layer, hlayer, rfl⟩ := Option.map_eq_some_iff.mp (mem_truthyStr horg)
        exact (hbase layer hlayer).template_id
    have hlayers : ∀ {α : Type} {p : α → Prop} {read : PaybondPolicyBinding → Option α}
        {readOverride : PaybondPolicyBindingOverride → Option α},
        (∀ binding, binding.SchemaValid → ∀ a ∈ read binding, p a) →
        (∀ binding, BindingOverrideAdmits binding → ∀ a ∈ readOverride binding, p a) →
          ∀ a ∈ ((override.bind readOverride).or (overlay.bind read)).or (base.bind read),
            p a := by
      intro α p read readOverride hread hreadOverride a ha
      rcases Option.or_eq_some_iff.mp ha with htenant | ⟨-, horg⟩
      · rcases Option.or_eq_some_iff.mp htenant with hinner | ⟨-, houter⟩
        · obtain ⟨layer, hlayer, ha⟩ := Option.bind_eq_some_iff.mp hinner
          exact hreadOverride layer (hoverride layer hlayer) a ha
        · obtain ⟨layer, hlayer, ha⟩ := Option.bind_eq_some_iff.mp houter
          exact hread layer (hoverlay layer hlayer) a ha
      · obtain ⟨layer, hlayer, ha⟩ := Option.bind_eq_some_iff.mp horg
        exact hread layer (hbase layer hlayer) a ha
    exact
      { template_id := htemplateId
        version_seq := hlayers (fun _ hvalid => hvalid.version_seq)
          fun _ hadmits => hadmits.version_seq
        head_digest := hlayers (fun _ hvalid => hvalid.head_digest)
          fun _ hadmits => hadmits.head_digest }

end Binding

section Budget

variable {P : PyValue → Prop} {merged : OrderedDict String PyValue}

/-- A budget laid over another one, or over nothing, is a budget. -/
theorem BudgetAdmits.update {layer : OrderedDict String PyValue}
    (hmerged : merged.items = [] ∨ BudgetAdmits P merged) (hlayer : BudgetAdmits P layer) :
    BudgetAdmits P (merged.update layer) := by
  obtain ⟨currency, hcurrency, hmatch⟩ := hlayer.currency
  refine ⟨⟨⟨currency, ?_, hmatch⟩, ?_⟩, ?_⟩
  · rw [OrderedDict.get?_update, hcurrency, Option.some_or]
  · intro amount hamount
    rw [OrderedDict.get?_update] at hamount
    rcases Option.or_eq_some_iff.mp hamount with hamount | ⟨-, hamount⟩
    · exact hlayer.max_spend_usd amount hamount
    · rcases hmerged with hnil | hmerged
      · have hmem := OrderedDict.get?_eq_some_iff.mp hamount
        rw [hnil] at hmem
        cases hmem
      · exact hmerged.max_spend_usd amount hamount
  · intro item hitem
    rcases OrderedDict.mem_foldl_set hitem with hitem | hitem
    · rcases hmerged with hnil | hmerged
      · rw [hnil] at hitem
        cases hitem
      · exact hmerged.values item hitem
    · exact hlayer.values item hitem

theorem updateWith_admits {layer : Option (OrderedDict String PyValue)}
    (hmerged : merged.items = [] ∨ BudgetAdmits P merged)
    (hlayer : ∀ budget ∈ layer, BudgetAdmits P budget) :
    (updateWith merged layer).items = [] ∨ BudgetAdmits P (updateWith merged layer) := by
  cases layer with
  | none => exact hmerged
  | some layer => exact .inr (.update hmerged (hlayer layer rfl))

theorem mergeBudget_admits {floatRepr : PyFloat → String}
    {base overlay override : Option (OrderedDict String PyValue)}
    (hbase : ∀ budget ∈ base, BudgetAdmits P budget)
    (hoverlay : ∀ budget ∈ overlay, BudgetAdmits P budget)
    (hoverride : ∀ budget ∈ override, BudgetAdmits P budget) :
    ∀ budget ∈ (mergeBudget floatRepr base overlay override).value, BudgetAdmits P budget := by
  have hlayered : (layeredBudget base overlay override).items = [] ∨
      BudgetAdmits P (layeredBudget base overlay override) :=
    updateWith_admits (updateWith_admits (updateWith_admits (.inl rfl) hbase) hoverlay) hoverride
  unfold mergeBudget
  split
  next => nofun
  next hnonempty =>
    intro budget hbudget
    obtain rfl := Option.some.inj hbudget
    exact hlayered.resolve_left fun hnil => hnonempty (by rw [hnil]; rfl)

end Budget

theorem mergeAdapterSection_isSome {base overlay override : Option PaybondPolicyAdapterSection} :
    ∀ adapter ∈ (mergeAdapterSection base overlay override).value,
      adapter.denyProviderExecutedTools.isSome := by
  unfold mergeAdapterSection
  dsimp only
  split
  next =>
    intro adapter hadapter
    exact absurd hadapter (Option.not_mem_none adapter)
  next =>
    intro adapter hadapter
    obtain rfl := Option.some.inj hadapter
    rfl

section Merge

variable {P : PyValue → Prop} {floatRepr : PyFloat → String} {base : PaybondPolicyDocument}
variable {overlay : PaybondPolicyDocumentV2} {options : PolicyMergeOptions}
variable {result : PolicyMergeResult}

theorem tenantAllowedTools_schemaValid (hoverlay : OverlayAdmits P overlay) :
    ∀ names ∈ tenantAllowedTools overlay, AllowedToolsSchemaValid names := by
  intro names hnames
  rcases Option.or_eq_some_iff.mp hnames with hinner | ⟨-, houter⟩
  · obtain ⟨intent, hintent, rfl⟩ :=
      Option.map_eq_some_iff.mp (Option.filter_eq_some_iff.mp hinner).1
    obtain ⟨overrides, hoverrides, hintent⟩ := Option.bind_eq_some_iff.mp hintent
    exact ((hoverlay.overrides overrides hoverrides).intent intent hintent).allowed_tools
  · obtain ⟨intent, hintent, rfl⟩ :=
      Option.map_eq_some_iff.mp (Option.filter_eq_some_iff.mp houter).1
    exact (hoverlay.document.intent intent hintent).allowed_tools

theorem mergeIntent_admits {mergedAllowed : Option (List String)}
    (hbase : DocumentAdmits P (baseDocumentToEffectiveV1 base)) (hoverlay : OverlayAdmits P overlay)
    (hallowed : ∀ names ∈ mergedAllowed, AllowedToolsSchemaValid names) :
    ∀ intent ∈ (mergeIntent floatRepr base overlay mergedAllowed).value,
      IntentAdmits P intent := by
  have hoverride : ∀ intent ∈ overrideIntent overlay, IntentOverrideAdmits P intent := by
    intro intent hintent
    obtain ⟨overrides, hoverrides, hintent⟩ := Option.bind_eq_some_iff.mp hintent
    exact (hoverlay.overrides overrides hoverrides).intent intent hintent
  unfold mergeIntent
  split
  next =>
    intro merged hmerged
    obtain ⟨intent, hintent, rfl⟩ := Option.map_eq_some_iff.mp hmerged
    have hadmits := hbase.intent intent hintent
    refine ⟨hadmits.policy_binding, hadmits.budget, ?_⟩
    cases mergedAllowed with
    | none => exact hadmits.allowed_tools
    | some names => exact hallowed names rfl
  next =>
    simp only [bind_value]
    split
    next =>
      intro merged hmerged
      obtain rfl := Option.some.inj hmerged
      refine ⟨mergePolicyBinding_schemaValid ?_ ?_ ?_, mergeBudget_admits ?_ ?_ ?_, ?_⟩
      · intro binding hbinding
        obtain ⟨intent, hintent, hbinding⟩ := Option.bind_eq_some_iff.mp hbinding
        exact (hbase.intent intent hintent).policy_binding binding hbinding
      · intro binding hbinding
        obtain ⟨intent, hintent, hbinding⟩ := Option.bind_eq_some_iff.mp hbinding
        exact (hoverlay.document.intent intent hintent).policy_binding binding hbinding
      · intro binding hbinding
        obtain ⟨intent, hintent, hbinding⟩ := Option.bind_eq_some_iff.mp hbinding
        exact (hoverride intent hintent).policy_binding binding hbinding
      · intro budget hbudget
        obtain ⟨intent, hintent, hbudget⟩ := Option.bind_eq_some_iff.mp hbudget
        exact (hbase.intent intent hintent).budget budget hbudget
      · intro budget hbudget
        obtain ⟨intent, hintent, hbudget⟩ := Option.bind_eq_some_iff.mp hbudget
        exact (hoverlay.document.intent intent hintent).budget budget hbudget
      · intro budget hbudget
        obtain ⟨intent, hintent, hbudget⟩ := Option.bind_eq_some_iff.mp hbudget
        exact (hoverride intent hintent).budget budget hbudget
      · cases mergedAllowed with
        | none => exact ⟨List.nodup_nil, nofun⟩
        | some names => exact hallowed names rfl
    next => exact hbase.intent

/-- The tools of a merged policy are an org tool as it is patched, or a tenant's own. -/
theorem mergedTools_schemaValid (hbase : DocumentAdmits P (baseDocumentToEffectiveV1 base))
    (hoverlay : OverlayAdmits P overlay)
    (hmerge : mergePaybondPolicies floatRepr base overlay options = .ok result) :
    ToolsSchemaValid result.effective.tools := by
  have hlayered : ∀ item ∈ result.effective.tools.items,
      toolNameRe item.1 = true ∧ item.2.SchemaValid := by
    intro item hitem
    have hget := mergePaybondPolicies_get? hmerge item.1
    rw [OrderedDict.get?_eq_some_iff.mpr hitem, layeredTool] at hget
    cases hentry : base.tools.get? item.1 with
    | none =>
        rw [hentry] at hget
        have hmem := OrderedDict.get?_eq_some_iff.mp hget.symm
        exact ⟨hoverlay.document.tools.names item hmem, hoverlay.document.tools.entries item hmem⟩
    | some entry =>
        rw [hentry] at hget
        have hmem := OrderedDict.get?_eq_some_iff.mp hentry
        refine ⟨hbase.tools.names (item.1, entry) hmem, ?_⟩
        have hvalid : entry.SchemaValid := hbase.tools.entries (item.1, entry) hmem
        rw [Option.some.inj hget]
        cases hpatch : (toolPatches overlay).get? item.1 with
        | none => exact hvalid
        | some patch =>
            have hpatchMem := OrderedDict.get?_eq_some_iff.mp hpatch
            have hadmits : ToolOverrideAdmits patch := by
              rw [← overridePatches_eq] at hpatchMem
              cases hpatches : overlay.overrides.bind (·.tools) with
              | none => rw [hpatches] at hpatchMem; cases hpatchMem
              | some patches =>
                  rw [hpatches] at hpatchMem
                  obtain ⟨overrides, hoverrides, htools⟩ := Option.bind_eq_some_iff.mp hpatches
                  exact (hoverlay.overrides overrides hoverrides).tools patches htools _ hpatchMem
            obtain ⟨report, hdenied, -⟩ := mergePaybondPolicies_eq_ok hmerge
            simp only [mergeLayers, bind_denied, baseDocumentToEffectiveV1] at hdenied
            obtain ⟨-, hpatched, -⟩ := hdenied
            rw [overridePatches_eq] at hpatched
            exact patchedEntry_schemaValid hvalid hadmits
              (mergeOverrideTools_denied (toolPatches overlay).nodup hpatched hpatchMem hentry)
  exact ⟨fun item hitem => (hlayered item hitem).1, fun item hitem => (hlayered item hitem).2⟩

/-- A merged policy is one of the schema, but for a policy without tools. -/
theorem mergePaybondPolicies_admits (hbase : DocumentAdmits P (baseDocumentToEffectiveV1 base))
    (hoverlay : OverlayAdmits P overlay)
    (hmerge : mergePaybondPolicies floatRepr base overlay options = .ok result) :
    DocumentAdmits P result.effective := by
  have htools := mergedTools_schemaValid hbase hoverlay hmerge
  obtain ⟨report, -, heffective⟩ := mergePaybondPolicies_eq_ok hmerge
  have hbaseAllowed : ∀ names ∈ base.intent.map (·.allowedTools), AllowedToolsSchemaValid names := by
    intro names hnames
    obtain ⟨intent, hintent, rfl⟩ := Option.map_eq_some_iff.mp hnames
    exact (hbase.intent intent hintent).allowed_tools
  have hallowed := intersectAllowedTools_schemaValid hbaseAllowed
    (tenantAllowedTools_schemaValid hoverlay)
  rw [← heffective] at htools ⊢
  exact
    { name := hoverlay.document.name
      tools := htools
      intent := mergeIntent_admits hbase hoverlay hallowed
      adapter := mergeAdapterSection_isSome }

end Merge

/-! ## Documents, dictionary forms and digests -/

/-- Values without floats, whose dicts have distinct keys. -/
structure Plain (value : PyValue) : Prop where
  distinct : value.Distinct
  integral : value.Integral

theorem hereditary_plain : Hereditary Plain := by
  intro items hplain item hitem
  have hdistinct := (PyValue.distinct_dict.mp hplain.distinct).2 item hitem
  exact ⟨hdistinct, PyValue.integralMembers_iff.mp hplain.integral item hitem⟩

theorem plain_dict {items : List (String × PyValue)} (hnodup : (items.map Prod.fst).Nodup)
    (hitems : ∀ item ∈ items, Plain item.2) : Plain (.dict items) where
  distinct := PyValue.distinct_dict.mpr ⟨hnodup, fun item hitem => (hitems item hitem).distinct⟩
  integral := PyValue.integralMembers_iff.mpr fun item hitem => (hitems item hitem).integral

theorem plain_fields {fields : PayloadFields}
    (hfields : ∀ field ∈ fields.entries, ∀ value ∈ field.2, Plain value) :
    Plain (.dict fields.items) := by
  refine plain_dict (fields.nodup.sublist (OrderedDict.presentItems_sublist _)) ?_
  intro item hitem
  obtain ⟨field, hfield, hpresent⟩ := List.mem_filterMap.mp hitem
  obtain ⟨value, hvalue, rfl⟩ := Option.map_eq_some_iff.mp hpresent
  exact hfields field hfield value hvalue

theorem plain_strings (items : List String) : Plain (.list (items.map .str)) := by
  constructor
  · rw [PyValue.Distinct, PyValue.distinctItems_iff]
    intro value hvalue
    obtain ⟨text, -, rfl⟩ := List.mem_map.mp hvalue
    trivial
  · rw [PyValue.Integral, PyValue.integralItems_iff]
    intro value hvalue
    obtain ⟨text, -, rfl⟩ := List.mem_map.mp hvalue
    trivial

theorem plain_leaf_map {α : Type} {leafOf : α → PyValue} (hleaf : ∀ a, Plain (leafOf a))
    {value : Option α} : ∀ leaf ∈ value.map leafOf, Plain leaf := by
  intro leaf hmem
  obtain ⟨a, -, rfl⟩ := Option.map_eq_some_iff.mp hmem
  exact hleaf a

theorem plain_bool (value : Bool) : Plain (.bool value) := ⟨trivial, trivial⟩

theorem plain_int (value : Int) : Plain (.int value) := ⟨trivial, trivial⟩

theorem plain_str (value : String) : Plain (.str value) := ⟨trivial, trivial⟩

theorem plain_toolEntry (entry : PaybondPolicyToolEntry) : Plain (.dict entry.payload.items) := by
  refine plain_fields ?_
  simp only [PaybondPolicyToolEntry.payload, List.forall_mem_cons, List.not_mem_nil,
    false_implies, implies_true, and_true, Option.mem_some_iff, forall_eq']
  exact ⟨plain_bool _, plain_leaf_map plain_int, plain_leaf_map plain_str,
    plain_leaf_map plain_str, plain_leaf_map plain_str, plain_leaf_map plain_str⟩

theorem plain_policyBinding (binding : PaybondPolicyBinding) :
    Plain (.dict binding.payload.items) := by
  refine plain_fields ?_
  simp only [PaybondPolicyBinding.payload, List.forall_mem_cons, List.not_mem_nil,
    false_implies, implies_true, and_true, Option.mem_some_iff, forall_eq']
  exact ⟨plain_str _, plain_leaf_map plain_int, plain_leaf_map plain_str⟩

theorem plain_intent {intent : PaybondPolicyIntentSection} (hadmits : IntentAdmits Plain intent) :
    Plain (.dict intent.payload.items) := by
  refine plain_fields ?_
  simp only [PaybondPolicyIntentSection.payload, List.forall_mem_cons, List.not_mem_nil,
    false_implies, implies_true, and_true]
  refine ⟨plain_leaf_map plain_policyBinding, ?_, ?_⟩
  · intro value hvalue
    obtain ⟨budget, hbudget, rfl⟩ := Option.map_eq_some_iff.mp hvalue
    exact plain_dict budget.nodup (hadmits.budget budget hbudget).values
  · intro value hvalue
    split at hvalue
    · cases hvalue
    · obtain rfl := Option.some.inj hvalue
      exact plain_strings _

/-- The dictionary form of a document with plain budgets is plain. -/
theorem plain_policyDocumentToDict {document : PaybondPolicyDocumentV1}
    (hadmits : DocumentAdmits Plain document) : Plain (policyDocumentToDict document) := by
  refine plain_fields ?_
  simp only [PaybondPolicyDocumentV1.payload, List.forall_mem_cons, List.not_mem_nil,
    false_implies, implies_true, and_true, Option.mem_some_iff, forall_eq']
  refine ⟨plain_int _, plain_str _, plain_bool _, ?_, ?_, ?_⟩
  · refine plain_dict ?_ ?_
    · rw [List.map_map]
      exact document.tools.nodup
    · rw [List.forall_mem_map]
      exact fun tool _ => plain_toolEntry tool.2
  · intro value hvalue
    obtain ⟨intent, hintent, rfl⟩ := Option.map_eq_some_iff.mp hvalue
    exact plain_intent (hadmits.intent intent hintent)
  · refine plain_leaf_map fun deny => plain_dict ?_ ?_
    · simp
    · simpa using plain_bool deny

/-- The documents that the parser returns, and those that a merge returns of layers of which
one declares a tool. -/
inductive Produced : PaybondPolicyDocumentV1 → Prop where
  | parsed {raw : PyValue} {document : PaybondPolicyDocumentV1} (hraw : Plain raw)
      (hdocument : parsePaybondPolicyDocumentV1 raw = .ok document) : Produced document
  | merged {rawBase rawOverlay : PyValue} {base : PaybondPolicyDocument}
      {overlay : PaybondPolicyDocumentV2} {floatRepr : PyFloat → String}
      {options : PolicyMergeOptions} {result : PolicyMergeResult}
      (hrawBase : Plain rawBase) (hrawOverlay : Plain rawOverlay)
      (hbase : parsePaybondPolicyDocument rawBase = .ok base)
      (hoverlay : parsePaybondPolicyDocumentV2 rawOverlay = .ok overlay)
      (hmerge : mergePaybondPolicies floatRepr base overlay options = .ok result)
      (htools : base.tools.items ≠ [] ∨ overlay.tools.items ≠ []) : Produced result.effective

/-- Each tool of a layer is in the merged policy, under its name. -/
theorem effective_tools_ne_nil {floatRepr : PyFloat → String} {base : PaybondPolicyDocument}
    {overlay : PaybondPolicyDocumentV2} {options : PolicyMergeOptions}
    {result : PolicyMergeResult}
    (hmerge : mergePaybondPolicies floatRepr base overlay options = .ok result)
    (htools : base.tools.items ≠ [] ∨ overlay.tools.items ≠ []) :
    result.effective.tools.items ≠ [] := by
  have hfound : ∃ toolName entry, layeredTool base overlay toolName = some entry := by
    rcases htools with htools | htools
    · obtain ⟨tool, htool⟩ := List.exists_mem_of_ne_nil _ htools
      have hget : base.tools.get? tool.1 = some tool.2 := OrderedDict.get?_eq_some_iff.mpr htool
      exact ⟨tool.1, _, by rw [layeredTool, hget]⟩
    · obtain ⟨tool, htool⟩ := List.exists_mem_of_ne_nil _ htools
      have hget : overlay.tools.get? tool.1 = some tool.2 :=
        OrderedDict.get?_eq_some_iff.mpr htool
      cases hbase : base.tools.get? tool.1 with
      | none => exact ⟨tool.1, tool.2, by rw [layeredTool, hbase]; exact hget⟩
      | some entry => exact ⟨tool.1, _, by rw [layeredTool, hbase]⟩
  obtain ⟨toolName, entry, hentry⟩ := hfound
  rw [← mergePaybondPolicies_get? hmerge toolName] at hentry
  exact List.ne_nil_of_mem (OrderedDict.get?_eq_some_iff.mp hentry)

theorem Produced.admits {document : PaybondPolicyDocumentV1} (hproduced : Produced document) :
    DocumentAdmits Plain document ∧ document.SchemaValid := by
  cases hproduced with
  | parsed hraw hdocument =>
      exact ⟨parsePaybondPolicyDocumentV1_admits hereditary_plain hraw hdocument,
        parsePaybondPolicyDocumentV1_schemaValid hdocument⟩
  | merged hrawBase hrawOverlay hbase hoverlay hmerge htools =>
      have hadmits := mergePaybondPolicies_admits
        (parsePaybondPolicyDocument_admits hereditary_plain hrawBase hbase)
        (parsePaybondPolicyDocumentV2_admits hereditary_plain hrawOverlay hoverlay) hmerge
      exact ⟨hadmits, hadmits.schemaValid_iff.mpr (effective_tools_ne_nil hmerge htools)⟩

/-- Documents that are the same up to order are hashed from the same bytes. -/
theorem Produced.canonicalText_eq {floatText : PyFloat → JsonNumber}
    {document other : PaybondPolicyDocumentV1} (hdocument : Produced document)
    (hother : Produced other) (hsame : document.SameUpToOrder other) :
    canonicalText floatText document = canonicalText floatText other := by
  obtain ⟨hadmits, hvalid⟩ := hdocument.admits
  obtain ⟨hadmits', hvalid'⟩ := hother.admits
  have hdicts := (sameValue_policyDocumentToDict hvalid.adapter hvalid'.adapter).mpr hsame
  rw [canonicalText, canonicalText,
    (canonicalizeJson_eq_iff (plain_policyDocumentToDict hadmits).distinct
      (plain_policyDocumentToDict hadmits').distinct).mpr hdicts]

/-- A document is read back from its dictionary form as it is, and where the hashed bytes do
not collide two documents have one digest exactly when they are the same up to the order of
tools and of budget keys. -/
theorem documents_dicts_digests_agree {sha256Hex : ByteArray → String}
    {floatText : PyFloat → JsonNumber} {document other : PaybondPolicyDocumentV1}
    (hdocument : Produced document) (hother : Produced other)
    (hcollision : sha256Hex (canonicalText floatText document) =
      sha256Hex (canonicalText floatText other) →
        canonicalText floatText document = canonicalText floatText other) :
    parsePaybondPolicyDocumentV1 (policyDocumentToDict document) = .ok document ∧
      (canonicalPolicyDocumentDigest sha256Hex floatText document =
          canonicalPolicyDocumentDigest sha256Hex floatText other ↔
        document.SameUpToOrder other) := by
  obtain ⟨hadmits, hvalid⟩ := hdocument.admits
  obtain ⟨hadmits', hvalid'⟩ := hother.admits
  have hplain := plain_policyDocumentToDict hadmits
  have hplain' := plain_policyDocumentToDict hadmits'
  refine ⟨parsePaybondPolicyDocumentV1_toDict hvalid, ?_⟩
  rw [canonicalPolicyDocumentDigest_eq_iff hcollision hplain.distinct hplain'.distinct
    hplain.integral hplain'.integral]
  exact sameValue_policyDocumentToDict hvalid.adapter hvalid'.adapter

/-! ## Two tools in either order -/

def bookTool : String × PyValue :=
  ("fares.book", .dict [("side_effecting", .bool true), ("max_spend_cents", .int 5000),
    ("evidence_preset", .str "cost_and_completion")])

def searchTool : String × PyValue := ("search.fares", .dict [("side_effecting", .bool false)])

def fareDocument (tools : List (String × PyValue)) : PyValue := .dict
  [("version", .int 1), ("name", .str "fares-v1"), ("default_deny", .bool true),
    ("tools", .dict tools)]

def fareOverlay : PyValue := .dict
  [("version", .int 2), ("name", .str "fares-v1"), ("default_deny", .bool true),
    ("extends", .dict [("org_policy_id", .str "fares-base"), ("org_id", .str "org_fares")]),
    ("tools", .dict [])]

def emptyIntentDocument : PyValue := .dict
  [("version", .int 1), ("name", .str "fares-v1"), ("default_deny", .bool true),
    ("tools", .dict [bookTool, searchTool]), ("intent", .dict [])]

/-- The hash of the text with the two tools. -/
def hashFares (_ : ByteArray) : String :=
  "a0a5881093966854d23d5b8f80d29697339c25d2ebfa7eb239b74a0138334ec3"

def noFloatText (_ : PyFloat) : JsonNumber := .ofInt 0

theorem plain_fareDocument : Plain (fareDocument [bookTool, searchTool]) ∧
    Plain (fareDocument [searchTool, bookTool]) ∧ Plain fareOverlay := by
  refine ⟨⟨?_, ?_⟩, ⟨?_, ?_⟩, ⟨?_, ?_⟩⟩ <;>
    simp [fareDocument, bookTool, searchTool, fareOverlay, PyValue.Distinct,
      PyValue.DistinctMembers, PyValue.Integral, PyValue.IntegralMembers]

theorem documents_dicts_digests_agree_fares : ∃ document base overlay result,
    parsePaybondPolicyDocumentV1 (fareDocument [bookTool, searchTool]) = .ok document ∧
      parsePaybondPolicyDocument (fareDocument [searchTool, bookTool]) = .ok base ∧
      parsePaybondPolicyDocumentV2 fareOverlay = .ok overlay ∧
      mergePaybondPolicies (fun _ => "") base overlay {} = .ok result ∧
      parsePaybondPolicyDocumentV1 (policyDocumentToDict document) = .ok document ∧
      (canonicalPolicyDocumentDigest hashFares noFloatText document =
          canonicalPolicyDocumentDigest hashFares noFloatText result.effective ↔
        document.SameUpToOrder result.effective) := by
  obtain ⟨hplain, hplain', hoverlay⟩ := plain_fareDocument
  refine ⟨_, _, _, _, rfl, rfl, rfl, rfl, ?_⟩
  have hdocument := Produced.parsed hplain rfl
  have hmerged := @Produced.merged _ _ _ _ (fun _ => "") {} _ hplain' hoverlay rfl rfl rfl
    (.inl (by decide))
  exact documents_dicts_digests_agree hdocument hmerged fun _ =>
    hdocument.canonicalText_eq hmerged ⟨rfl, rfl, List.Perm.swap _ _ _, .none, rfl⟩

/-- A document that sets an empty intent section is told apart from one without. -/
theorem empty_intent_has_digest : ∃ rawEmpty absent empty,
    parsePaybondPolicyDocumentV1 (fareDocument [bookTool, searchTool]) = .ok absent ∧
      Plain rawEmpty ∧ parsePaybondPolicyDocumentV1 rawEmpty = .ok empty ∧
      absent.intent = none ∧
      empty = { absent with intent := some { policyBinding := none, budget := none } } ∧
      ∀ (sha256Hex : ByteArray → String) (floatText : PyFloat → JsonNumber),
        (sha256Hex (canonicalText floatText absent) = sha256Hex (canonicalText floatText empty) →
          canonicalText floatText absent = canonicalText floatText empty) →
        canonicalPolicyDocumentDigest sha256Hex floatText absent ≠
          canonicalPolicyDocumentDigest sha256Hex floatText empty := by
  have hplain : Plain emptyIntentDocument := by
    constructor <;>
      simp [emptyIntentDocument, bookTool, searchTool, PyValue.Distinct, PyValue.DistinctMembers,
        PyValue.Integral, PyValue.IntegralMembers]
  refine ⟨emptyIntentDocument, _, _, rfl, hplain, rfl, rfl, rfl, ?_⟩
  intro sha256Hex floatText hcollision hdigest
  have habsent := (Produced.parsed plain_fareDocument.1 rfl).admits
  have hempty := (Produced.parsed hplain rfl).admits
  have hsame := (canonicalPolicyDocumentDigest_eq_iff hcollision
    (plain_policyDocumentToDict habsent.1).distinct (plain_policyDocumentToDict hempty.1).distinct
    (plain_policyDocumentToDict habsent.1).integral
    (plain_policyDocumentToDict hempty.1).integral).mp hdigest
  cases ((sameValue_policyDocumentToDict habsent.2.adapter hempty.2.adapter).mp hsame).intent

end PaybondKit.Policy
