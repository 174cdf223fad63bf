import PaybondKit.Agent.InlinePolicy
import PaybondKit.Policy.Compose

/-!
# Composing inside the schema

The constructors of guardrails cap side-effecting tools and filter the others out. A cap on
a tool that reads its amount from the arguments, and a filter that leaves no tool, take the
document out of the schema; nothing else does.
-/

namespace PaybondKit.Policy

open Agent (PyExc PlatformText textTravel)

/-- The layer was made by one of the constructors. -/
inductive ConstructedLayer : PolicyGuardrailLayer → Prop where
  | defaultDeny : ConstructedLayer Guardrails.defaultDeny
  | maxSpend {cents : Int} {layer : PolicyGuardrailLayer}
      (hlayer : Guardrails.maxSpend cents = .ok layer) : ConstructedLayer layer
  | maxSpendUsd {usd : PyFloat} {layer : PolicyGuardrailLayer}
      (hlayer : Guardrails.maxSpendUsd usd = .ok layer) : ConstructedLayer layer
  | readOnly : ConstructedLayer Guardrails.readOnly
  | readOnlySearch : ConstructedLayer Guardrails.readOnlySearch
  | strict : ConstructedLayer Guardrails.strict
  | requireEvidence : ConstructedLayer Guardrails.requireEvidence
  | auditOnly : ConstructedLayer Guardrails.auditOnly
  | allowDryRun : ConstructedLayer Guardrails.allowDryRun

/-- What the constructors have in common. -/
structure ConstructedLayer.Facts (layer : PolicyGuardrailLayer) : Prop where
  tools : layer.tools = none
  intent : layer.intent = none
  cents : ∀ cents ∈ layer.sideEffectingMaxSpendCents, 0 ≤ cents
  usd : ∀ usd ∈ layer.budgetMaxSpendUsd, ¬usd < .finite 0

theorem ConstructedLayer.facts {layer : PolicyGuardrailLayer} (hlayer : ConstructedLayer layer) :
    ConstructedLayer.Facts layer := by
  cases hlayer with
  | maxSpend hlayer =>
      obtain ⟨hcents, hlayer⟩ := except_guard_eq_ok.mp hlayer
      cases hlayer
      exact ⟨rfl, rfl, fun _ h => Option.some.inj h ▸ not_lt.mp hcents, fun _ h => nomatch h⟩
  | maxSpendUsd hlayer =>
      obtain ⟨husd, hlayer⟩ := except_guard_eq_ok.mp hlayer
      cases hlayer
      exact ⟨rfl, rfl, fun _ h => (nomatch h), fun _ h => Option.some.inj h ▸ husd⟩
  | strict =>
      refine ⟨rfl, rfl, fun cents h => ?_, fun usd h => ?_⟩
      · cases h
        decide
      · cases h
        decide
  | _ => exact ⟨rfl, rfl, fun _ h => (nomatch h), fun _ h => nomatch h⟩

/-! ## Tools -/

namespace PolicyGuardrailLayer

variable (layer : PolicyGuardrailLayer)

/-- The entry under the cap of the layer, if it has one. -/
def capEntry (entry : PaybondPolicyToolEntry) : PaybondPolicyToolEntry :=
  layer.sideEffectingMaxSpendCents.elim entry fun cents => Policy.capEntry cents entry

def filtersTools : Bool := layer.readOnly || layer.readOnlySearch

def keeps (toolName : String) (entry : PaybondPolicyToolEntry) : Bool :=
  !layer.filtersTools || keptReadOnly layer.readOnlySearch toolName entry

theorem capEntry_sideEffecting (entry : PaybondPolicyToolEntry) :
    (layer.capEntry entry).sideEffecting = entry.sideEffecting := by
  unfold capEntry Policy.capEntry
  cases layer.sideEffectingMaxSpendCents with
  | none => rfl
  | some cents =>
      rw [Option.elim_some]
      split <;> rfl

theorem keeps_capEntry (other : PolicyGuardrailLayer) (toolName : String)
    (entry : PaybondPolicyToolEntry) :
    other.keeps toolName (layer.capEntry entry) = other.keeps toolName entry := by
  simp only [keeps, keptReadOnly, capEntry_sideEffecting]

end PolicyGuardrailLayer

/-- The entry under the caps of all layers. -/
def cappedEntry (layers : List PolicyGuardrailLayer) (entry : PaybondPolicyToolEntry) :
    PaybondPolicyToolEntry :=
  layers.foldl (fun entry layer => layer.capEntry entry) entry

/-- What all layers keep of a tool. -/
def keptByAll (layers : List PolicyGuardrailLayer) (toolName : String)
    (entry : PaybondPolicyToolEntry) : Bool :=
  layers.all (·.keeps toolName entry)

section Layers

variable {platform : PlatformText} {parseInt : String → Except PyExc Int}
variable {document result : PaybondPolicyDocumentV1}

/-- What a constructed layer makes of a document. -/
structure AppliedLayer (platform : PlatformText) (layer : PolicyGuardrailLayer)
    (document result : PaybondPolicyDocumentV1) : Prop where
  name : result.name = document.name
  default_deny : result.defaultDeny = (document.defaultDeny || layer.defaultDeny.getD false)
  tools : result.tools = (document.tools.mapValues fun _ => layer.capEntry).filter layer.keeps
  adapter : result.adapter = document.adapter
  intent : ∃ capped, capIntent platform layer document.intent = .ok capped ∧
    result.intent = capped.map fun intent =>
      if layer.filtersTools then
        { intent with allowedTools := intent.allowedTools.filter (result.tools.contains ·) }
      else intent

theorem applyDefaultDeny_eq (layer : PolicyGuardrailLayer) :
    applyDefaultDeny layer document =
      { document with defaultDeny := document.defaultDeny || layer.defaultDeny.getD false } := by
  unfold applyDefaultDeny
  cases layer.defaultDeny with
  | none => simp
  | some deny => simp [mergeStricterDefaultDeny]

theorem applySpendCap_eq (layer : PolicyGuardrailLayer) :
    applySpendCap layer document =
      { document with tools := document.tools.mapValues fun _ => layer.capEntry } := by
  unfold applySpendCap PolicyGuardrailLayer.capEntry
  cases layer.sideEffectingMaxSpendCents with
  | some cents => rfl
  | none =>
      have hsame : document.tools.mapValues (fun _ entry => entry) = document.tools :=
        OrderedDict.ext (List.map_id _)
      simp [hsame]

theorem applyReadOnly_eq (layer : PolicyGuardrailLayer) :
    applyReadOnly layer document =
      { document with
        tools := document.tools.filter layer.keeps
        intent := document.intent.map fun intent =>
          if layer.filtersTools then
            { intent with
              allowedTools := intent.allowedTools.filter
                ((document.tools.filter layer.keeps).contains ·) }
          else intent } := by
  change (if layer.filtersTools = true then applyReadOnlyFilter layer.readOnlySearch document
    else document) = _
  by_cases hfilters : layer.filtersTools = true
  · have hkeeps : layer.keeps = keptReadOnly layer.readOnlySearch := by
      funext toolName entry
      simp [PolicyGuardrailLayer.keeps, hfilters]
    rw [if_pos hfilters, hkeeps, applyReadOnlyFilter]
    simp [hfilters]
  · have hkeeps : document.tools.filter layer.keeps = document.tools := by
      rw [OrderedDict.filter_eq_self_iff]
      intro item _
      simp [PolicyGuardrailLayer.keeps, hfilters]
    rw [if_neg hfilters, hkeeps]
    simp [hfilters]

theorem applyGuardrailLayer_constructed {layer : PolicyGuardrailLayer}
    (hlayer : ConstructedLayer layer)
    (hresult : applyGuardrailLayer platform parseInt document layer = .ok result) :
    AppliedLayer platform layer document result := by
  have hfacts := hlayer.facts
  have hpatches : applyToolPatches platform parseInt layer (applyDefaultDeny layer document) =
      .ok (applyDefaultDeny layer document) := by
    rw [applyToolPatches, patchTools, hfacts.tools]
    rfl
  have hintent : applyIntentPatch layer (applyDefaultDeny layer document) =
      .ok (applyDefaultDeny layer document) := by
    rw [applyIntentPatch, patchIntent, hfacts.intent]
    rfl
  rw [applyGuardrailLayer] at hresult
  dsimp only at hresult
  rw [hpatches, except_ok_bind, hintent, except_ok_bind, applyDefaultDeny_eq,
    applySpendCap_eq] at hresult
  obtain ⟨capped, hcapped, hresult⟩ := except_bind_eq_ok.mp hresult
  obtain ⟨intent, hintent, rfl⟩ := except_map_eq_ok.mp hcapped
  rw [applyReadOnly_eq] at hresult
  obtain ⟨_, -, hresult⟩ := except_bind_eq_ok.mp hresult
  cases hresult
  exact
    { name := rfl
      default_deny := rfl
      tools := rfl
      adapter := rfl
      intent := ⟨intent, hintent, rfl⟩ }

/-- The tools of the result: capped by every layer, and kept by every layer. -/
theorem applyGuardrailLayers_get? {layers : List PolicyGuardrailLayer}
    (hlayers : ∀ layer ∈ layers, ConstructedLayer layer)
    (hresult : applyGuardrailLayers platform parseInt document layers = .ok result)
    (toolName : String) :
    result.tools.get? toolName =
      ((document.tools.get? toolName).filter (keptByAll layers toolName)).map
        (cappedEntry layers) := by
  induction layers generalizing document with
  | nil =>
      cases hresult
      cases result.tools.get? toolName <;> simp [keptByAll, cappedEntry, Option.filter]
  | cons layer layers ih =>
      rw [applyGuardrailLayers, List.foldlM_cons] at hresult
      obtain ⟨next, hnext, hrest⟩ := except_bind_eq_ok.mp hresult
      have happlied := applyGuardrailLayer_constructed (hlayers layer List.mem_cons_self) hnext
      rw [ih (fun other hother => hlayers other (List.mem_cons_of_mem _ hother)) hrest,
        happlied.tools, OrderedDict.get?_filter, OrderedDict.get?_mapValues]
      cases document.tools.get? toolName with
      | none => rfl
      | some entry =>
          have hkept : keptByAll layers toolName (layer.capEntry entry) =
              keptByAll layers toolName entry := by
            simp only [keptByAll, PolicyGuardrailLayer.keeps_capEntry]
          have hall : keptByAll (layer :: layers) toolName entry =
              (layer.keeps toolName entry && keptByAll layers toolName entry) := rfl
          rw [Option.map_some, Option.filter_some, Option.filter_some, hall,
            PolicyGuardrailLayer.keeps_capEntry]
          by_cases hkeeps : layer.keeps toolName entry = true
          · rw [if_pos hkeeps, Option.filter_some, hkept, hkeeps, Bool.true_and]
            split <;> rfl
          · rw [if_neg hkeeps, if_neg (by simp [hkeeps])]
            rfl

/-! ## Caps -/

theorem capEntry_fields (layer : PolicyGuardrailLayer) (entry : PaybondPolicyToolEntry) :
    layer.capEntry entry =
      { entry with maxSpendCents := (layer.capEntry entry).maxSpendCents } := by
  unfold PolicyGuardrailLayer.capEntry capEntry
  cases layer.sideEffectingMaxSpendCents with
  | none => rfl
  | some cents =>
      rw [Option.elim_some]
      split <;> rfl

/-- Nothing but the cap of an entry changes. -/
theorem cappedEntry_fields (layers : List PolicyGuardrailLayer)
    (entry : PaybondPolicyToolEntry) :
    cappedEntry layers entry =
      { entry with maxSpendCents := (cappedEntry layers entry).maxSpendCents } := by
  induction layers generalizing entry with
  | nil => rfl
  | cons layer layers ih =>
      change cappedEntry layers (layer.capEntry entry) =
        { entry with maxSpendCents := (cappedEntry layers (layer.capEntry entry)).maxSpendCents }
      rw [ih, capEntry_fields]

theorem capEntry_isSome (layer : PolicyGuardrailLayer) (entry : PaybondPolicyToolEntry) :
    (layer.capEntry entry).maxSpendCents.isSome = true ↔
      entry.maxSpendCents.isSome = true ∨
        (entry.sideEffecting = true ∧ layer.sideEffectingMaxSpendCents.isSome = true) := by
  unfold PolicyGuardrailLayer.capEntry capEntry
  cases layer.sideEffectingMaxSpendCents with
  | none => simp
  | some cents =>
      rw [Option.elim_some]
      split
      next hside => simp [hside]
      next hside => simp [hside]

/-- A tool has a cap if it had one, or a layer caps it. -/
theorem cappedEntry_isSome (layers : List PolicyGuardrailLayer)
    (entry : PaybondPolicyToolEntry) :
    (cappedEntry layers entry).maxSpendCents.isSome = true ↔
      entry.maxSpendCents.isSome = true ∨
        (entry.sideEffecting = true ∧
          ∃ layer ∈ layers, layer.sideEffectingMaxSpendCents.isSome = true) := by
  induction layers generalizing entry with
  | nil => simp [cappedEntry]
  | cons layer layers ih =>
      change (cappedEntry layers (layer.capEntry entry)).maxSpendCents.isSome = true ↔ _
      rw [ih, capEntry_isSome, PolicyGuardrailLayer.capEntry_sideEffecting,
        List.exists_mem_cons_iff, or_assoc, ← and_or_left]

theorem capEntry_nonneg {layer : PolicyGuardrailLayer} (hlayer : ConstructedLayer layer)
    {entry : PaybondPolicyToolEntry} (hentry : ∀ cap ∈ entry.maxSpendCents, 0 ≤ cap) :
    ∀ cap ∈ (layer.capEntry entry).maxSpendCents, 0 ≤ cap := by
  have hcents := hlayer.facts.cents
  unfold PolicyGuardrailLayer.capEntry capEntry
  cases hcap : layer.sideEffectingMaxSpendCents with
  | none => exact hentry
  | some cents =>
      have hnonneg := hcents cents hcap
      rw [Option.elim_some]
      split
      · intro cap hmem
        cases Option.some.inj hmem
        unfold tighterCap
        cases hold : entry.maxSpendCents with
        | none => exact hnonneg
        | some old => exact le_min (hentry old hold) hnonneg
      · exact hentry

theorem cappedEntry_nonneg {layers : List PolicyGuardrailLayer}
    (hlayers : ∀ layer ∈ layers, ConstructedLayer layer) {entry : PaybondPolicyToolEntry}
    (hentry : ∀ cap ∈ entry.maxSpendCents, 0 ≤ cap) :
    ∀ cap ∈ (cappedEntry layers entry).maxSpendCents, 0 ≤ cap := by
  induction layers generalizing entry with
  | nil => exact hentry
  | cons layer layers ih =>
      exact ih (fun other hother => hlayers other (List.mem_cons_of_mem _ hother))
        (capEntry_nonneg (hlayers layer List.mem_cons_self) hentry)

/-- The entry stays in the schema unless it is capped besides reading its amount from the
arguments. -/
theorem cappedEntry_schemaValid_iff {layers : List PolicyGuardrailLayer}
    (hlayers : ∀ layer ∈ layers, ConstructedLayer layer) {entry : PaybondPolicyToolEntry}
    (hentry : entry.SchemaValid) :
    (cappedEntry layers entry).SchemaValid ↔
      ((∃ layer ∈ layers, layer.sideEffectingMaxSpendCents.isSome = true) →
        entry.sideEffecting = true → entry.spendFromArgs = none) := by
  have hfields := cappedEntry_fields layers entry
  have hspend : (cappedEntry layers entry).spendFromArgs = entry.spendFromArgs := by
    rw [hfields]
  constructor
  · intro hvalid hcaps hside
    have hsome := (cappedEntry_isSome layers entry).mpr (.inr ⟨hside, hcaps⟩)
    rcases hvalid.spend_exclusive with hnone | hnone
    · rw [hnone] at hsome
      cases hsome
    · rwa [hspend] at hnone
  · intro hfree
    refine
      { max_spend_cents := cappedEntry_nonneg hlayers hentry.max_spend_cents
        spend_from_args := by rw [hspend]; exact hentry.spend_from_args
        spend_exclusive := ?_
        evidence_preset := by rw [hfields]; exact hentry.evidence_preset
        evidence_required := by rw [hfields]; exact hentry.evidence_required
        vendor_pack := by rw [hfields]; exact hentry.vendor_pack
        operation := by rw [hfields]; exact hentry.operation }
    rw [hspend, or_iff_not_imp_left]
    intro hcap
    have hsome := (cappedEntry_isSome layers entry).mp
      (Option.isSome_iff_ne_none.mpr hcap)
    rcases hsome with hown | ⟨hside, hcaps⟩
    · exact hentry.spend_exclusive.resolve_left (Option.isSome_iff_ne_none.mp hown)
    · exact hfree hcaps hside

/-! ## Intents -/

theorem pyFloat_nonneg {value : PyValue} {number double : PyFloat}
    (hnumber : value.number? = some number) (hnonneg : ¬number < .finite 0)
    (hdouble : pyFloat platform value = .ok double) : ¬double < .finite 0 := by
  cases value with
  | bool flag =>
      cases hnumber
      cases hdouble
      exact hnonneg
  | int n =>
      cases hnumber
      have hn : 0 ≤ n := by
        by_contra hneg
        have hcast : (n : ℚ) < 0 := Rat.intCast_neg_iff.mpr (not_le.mp hneg)
        refine hnonneg ⟨?_, ?_⟩
        · exact decide_eq_true hcast.le
        · simpa [PyFloat.le_def, PyFloat.le] using hcast
      dsimp only [pyFloat] at hdouble
      cases hround : doubleOfInt n with
      | none =>
          rw [hround] at hdouble
          cases hdouble
      | some rounded =>
          rw [hround] at hdouble
          cases hdouble
          exact doubleOfInt_nonneg hn hround
  | float x =>
      cases hnumber
      cases hdouble
      exact hnonneg
  | none => cases hnumber
  | str _ => cases hnumber
  | list _ => cases hnumber
  | dict _ => cases hnumber

theorem cappedAmount_nonneg {usd amount : PyFloat} (husd : ¬usd < .finite 0)
    {budget : OrderedDict String PyValue} (hbudget : budget = .empty ∨ BudgetSchemaValid budget)
    (hamount : cappedAmount platform usd budget = .ok amount) : ¬amount < .finite 0 := by
  unfold cappedAmount at hamount
  split at hamount
  · cases hamount
    exact husd
  next current hcurrent =>
    obtain ⟨double, hdouble, rfl⟩ := except_map_eq_ok.mp hamount
    have hstored : budget.get? "max_spend_usd" = some current := by
      cases hget : budget.get? "max_spend_usd" with
      | none =>
          rw [OrderedDict.getValue, hget] at hcurrent
          cases hcurrent
      | some stored =>
          rw [OrderedDict.getValue, hget, Option.getD_some] at hcurrent
          cases stored with
          | none => cases hcurrent
          | _ => rw [Option.some.inj hcurrent]
    split
    · exact husd
    · rcases hbudget with rfl | hvalid
      · cases hstored
      · obtain ⟨number, hnumber, hnonneg⟩ := hvalid.max_spend_usd current hstored
        exact pyFloat_nonneg hnumber hnonneg hdouble

/-- A cap on the budget keeps it in the schema, or starts one that is. -/
theorem capBudget_schemaValid {usd : PyFloat} (husd : ¬usd < .finite 0)
    {budget capped : OrderedDict String PyValue}
    (hbudget : budget = .empty ∨ BudgetSchemaValid budget)
    (hcapped : capBudget platform usd budget = .ok capped) : BudgetSchemaValid capped := by
  obtain ⟨amount, hamount, hcapped⟩ := except_bind_eq_ok.mp hcapped
  cases hcapped
  have hcurrency : ∃ currency, (budget.getValue "currency").truthy?.getD (.str "usd") =
      .str currency ∧ currencyRe currency = true := by
    rcases hbudget with rfl | hvalid
    · exact ⟨"usd", rfl, by decide⟩
    · obtain ⟨currency, hget, hmatch⟩ := hvalid.currency
      have hne : currency ≠ "" := by
        rintro rfl
        cases hmatch
      refine ⟨currency, ?_, hmatch⟩
      simp [OrderedDict.getValue, hget, PyValue.truthy?, PyValue.truthy, hne]
  have hnonneg := cappedAmount_nonneg husd hbudget hamount
  constructor
  · obtain ⟨currency, hsame, hmatch⟩ := hcurrency
    refine ⟨currency, ?_, hmatch⟩
    rw [OrderedDict.get?_set, if_neg (by decide), OrderedDict.get?_set_self, hsame]
  · intro found hfound
    rw [OrderedDict.get?_set_self] at hfound
    cases hfound
    exact ⟨amount, rfl, hnonneg⟩

theorem capIntent_schemaValid {layer : PolicyGuardrailLayer} (hlayer : ConstructedLayer layer)
    {intent capped : Option PaybondPolicyIntentSection}
    (hintent : ∀ old ∈ intent, old.SchemaValid)
    (hcapped : capIntent platform layer intent = .ok capped) :
    ∀ new ∈ capped, new.SchemaValid := by
  unfold capIntent at hcapped
  cases hcap : layer.budgetMaxSpendUsd with
  | none =>
      rw [hcap] at hcapped
      cases hcapped
      exact hintent
  | some usd =>
      rw [hcap] at hcapped
      obtain ⟨budget, hbudget, hcapped⟩ := except_bind_eq_ok.mp hcapped
      cases hcapped
      intro new hnew
      obtain rfl := Option.some.inj hnew
      have husd := hlayer.facts.usd usd hcap
      have hold : (nonemptyBudget intent).getD .empty = .empty ∨
          BudgetSchemaValid ((nonemptyBudget intent).getD .empty) := by
        cases hnonempty : nonemptyBudget intent with
        | none => exact .inl rfl
        | some stored =>
            obtain ⟨hbind, -⟩ := Option.filter_eq_some_iff.mp hnonempty
            obtain ⟨old, hold, hstored⟩ := Option.bind_eq_some_iff.mp hbind
            exact .inr ((hintent old hold).budget stored hstored)
      have hbudgetValid := capBudget_schemaValid husd hold hbudget
      cases intent with
      | none =>
          exact
            { policy_binding := fun _ h => nomatch h
              budget := fun _ h => Option.some.inj h ▸ hbudgetValid
              allowed_tools := ⟨List.nodup_nil, fun _ h => nomatch h⟩ }
      | some old =>
          exact
            { policy_binding := (hintent old rfl).policy_binding
              budget := fun _ h => Option.some.inj h ▸ hbudgetValid
              allowed_tools := (hintent old rfl).allowed_tools }

/-- The parts beside the tools stay in the schema. -/
structure FrameSchemaValid (document : PaybondPolicyDocumentV1) : Prop where
  name : policyNameRe document.name = true
  intent : ∀ intent ∈ document.intent, intent.SchemaValid
  adapter : ∀ adapter ∈ document.adapter, adapter.denyProviderExecutedTools.isSome

theorem AppliedLayer.frame {layer : PolicyGuardrailLayer} (hlayer : ConstructedLayer layer)
    (happlied : AppliedLayer platform layer document result)
    (hframe : FrameSchemaValid document) : FrameSchemaValid result := by
  obtain ⟨capped, hcapped, hintent⟩ := happlied.intent
  have hvalid := capIntent_schemaValid hlayer hframe.intent hcapped
  refine ⟨happlied.name ▸ hframe.name, ?_, happlied.adapter ▸ hframe.adapter⟩
  intro intent hmem
  rw [hintent] at hmem
  obtain ⟨old, hold, rfl⟩ := Option.map_eq_some_iff.mp hmem
  have hvalid := hvalid old hold
  split
  · refine ⟨hvalid.policy_binding, hvalid.budget, ?_⟩
    exact ⟨hvalid.allowed_tools.nodup.filter _, fun toolName hname =>
      hvalid.allowed_tools.names toolName (List.mem_of_mem_filter hname)⟩
  · exact hvalid

theorem applyGuardrailLayers_frame {layers : List PolicyGuardrailLayer}
    (hlayers : ∀ layer ∈ layers, ConstructedLayer layer) (hframe : FrameSchemaValid document)
    (hresult : applyGuardrailLayers platform parseInt document layers = .ok result) :
    FrameSchemaValid result := by
  refine except_foldlM_invariant FrameSchemaValid ?_ hframe hresult
  intro current layer hlayer hcurrent next hnext
  have hconstructed := hlayers layer hlayer
  exact (applyGuardrailLayer_constructed hconstructed hnext).frame hconstructed hcurrent

/-! ## The composed document -/

/-- What the filters of the layers leave of a tool. -/
theorem keptByAll_iff {layers : List PolicyGuardrailLayer} {toolName : String}
    {entry : PaybondPolicyToolEntry} :
    keptByAll layers toolName entry = true ↔
      ((∃ layer ∈ layers, layer.filtersTools = true) → entry.sideEffecting = false) ∧
        ((∃ layer ∈ layers, layer.readOnlySearch = true) →
          "search.".toList.isPrefixOf toolName.toList = true) := by
  simp only [keptByAll, List.all_eq_true, PolicyGuardrailLayer.keeps, keptReadOnly,
    Bool.or_eq_true, Bool.not_eq_true', Bool.and_eq_true]
  constructor
  · intro hkept
    constructor
    · rintro ⟨layer, hlayer, hfilters⟩
      rcases hkept layer hlayer with hnot | ⟨hread, -⟩
      · rw [hfilters] at hnot
        cases hnot
      · exact hread
    · rintro ⟨layer, hlayer, hsearch⟩
      rcases hkept layer hlayer with hnot | ⟨-, hnot | hprefix⟩
      · simp [PolicyGuardrailLayer.filtersTools, hsearch] at hnot
      · rw [hsearch] at hnot
        cases hnot
      · exact hprefix
  · rintro ⟨hread, hsearch⟩ layer hlayer
    by_cases hfilters : layer.filtersTools = true
    · refine .inr ⟨hread ⟨layer, hlayer, hfilters⟩, ?_⟩
      by_cases hsearches : layer.readOnlySearch = true
      · exact .inr (hsearch ⟨layer, hlayer, hsearches⟩)
      · exact .inl (Bool.eq_false_iff.mpr hsearches)
    · exact .inl (Bool.eq_false_iff.mpr hfilters)

/-- No cap meets a tool that reads its amount from the arguments, unless a filter drops it,
and the filters leave a tool. -/
structure ComposesInSchema (document : PaybondPolicyDocumentV1)
    (layers : List PolicyGuardrailLayer) : Prop where
  spend : (∃ layer ∈ layers, layer.sideEffectingMaxSpendCents.isSome = true) →
    ¬(∃ layer ∈ layers, layer.filtersTools = true) →
    ∀ toolName entry, document.tools.get? toolName = some entry →
      entry.sideEffecting = true → entry.spendFromArgs = none
  tools : (∃ layer ∈ layers, layer.filtersTools = true) →
    ∃ toolName entry, document.tools.get? toolName = some entry ∧
      entry.sideEffecting = false ∧
        ((∃ layer ∈ layers, layer.readOnlySearch = true) →
          "search.".toList.isPrefixOf toolName.toList = true)

/-- The composed document is read back exactly when the composition stays in the schema. -/
theorem composePolicyLayers_inSchema_iff {raw : PyValue} {layers : List PolicyGuardrailLayer}
    (hdocument : parsePaybondPolicyDocumentV1 raw = .ok document)
    (hlayers : ∀ layer ∈ layers, ConstructedLayer layer)
    (hresult : composePolicyLayers platform parseInt document layers = .ok result) :
    parsePaybondPolicyDocumentV1 (policyDocumentToDict result) = .ok result ↔
      ComposesInSchema document layers := by
  have hvalid := parsePaybondPolicyDocumentV1_schemaValid hdocument
  obtain ⟨composed, hcomposed, hresult⟩ := except_bind_eq_ok.mp hresult
  obtain ⟨_, -, hresult⟩ := except_bind_eq_ok.mp hresult
  cases hresult
  have hget := applyGuardrailLayers_get? hlayers hcomposed
  have hframe := applyGuardrailLayers_frame hlayers ⟨hvalid.name, hvalid.intent, hvalid.adapter⟩
    hcomposed
  have hentries : ∀ toolName entry, document.tools.get? toolName = some entry →
      entry.SchemaValid := fun toolName entry hentry =>
    hvalid.tools.entries (toolName, entry) (OrderedDict.get?_eq_some_iff.mp hentry)
  rw [parsePaybondPolicyDocumentV1_toDict_iff]
  constructor
  · intro hschema
    constructor
    · intro hcaps hfilters toolName entry hentry hside
      have hkept : keptByAll layers toolName entry = true :=
        keptByAll_iff.mpr ⟨fun h => absurd h hfilters, fun ⟨layer, hlayer, hsearch⟩ =>
          absurd ⟨layer, hlayer, by simp [PolicyGuardrailLayer.filtersTools, hsearch]⟩ hfilters⟩
      have hfound : result.tools.get? toolName = some (cappedEntry layers entry) := by
        rw [hget, hentry, Option.filter_some, if_pos hkept, Option.map_some]
      have hcapped := hschema.tools.entries (toolName, cappedEntry layers entry)
        (OrderedDict.get?_eq_some_iff.mp hfound)
      exact (cappedEntry_schemaValid_iff hlayers (hentries toolName entry hentry)).mp hcapped
        hcaps hside
    · intro hfilters
      obtain ⟨item, hitem⟩ := List.exists_mem_of_ne_nil _ hschema.tools_nonempty
      have hfound := OrderedDict.get?_eq_some_iff.mpr hitem
      rw [hget, Option.map_eq_some_iff] at hfound
      obtain ⟨entry, hentry, -⟩ := hfound
      obtain ⟨hentry, hkept⟩ := Option.filter_eq_some_iff.mp hentry
      obtain ⟨hread, hsearch⟩ := keptByAll_iff.mp hkept
      exact ⟨item.1, entry, hentry, hread hfilters, hsearch⟩
  · intro hcomposes
    refine ⟨hframe.name, ?_, ⟨?_, ?_⟩, hframe.intent, hframe.adapter⟩
    · obtain ⟨toolName, entry, hentry, hkept⟩ : ∃ toolName entry,
          document.tools.get? toolName = some entry ∧
            keptByAll layers toolName entry = true := by
        by_cases hfilters : ∃ layer ∈ layers, layer.filtersTools = true
        · obtain ⟨toolName, entry, hentry, hread, hsearch⟩ := hcomposes.tools hfilters
          exact ⟨toolName, entry, hentry, keptByAll_iff.mpr ⟨fun _ => hread, hsearch⟩⟩
        · obtain ⟨item, hitem⟩ := List.exists_mem_of_ne_nil _ hvalid.tools_nonempty
          refine ⟨item.1, item.2, OrderedDict.get?_eq_some_iff.mpr hitem, keptByAll_iff.mpr
            ⟨fun h => absurd h hfilters, fun ⟨layer, hlayer, hsearch⟩ => ?_⟩⟩
          exact absurd ⟨layer, hlayer, by simp [PolicyGuardrailLayer.filtersTools, hsearch]⟩
            hfilters
      have hfound : result.tools.get? toolName = some (cappedEntry layers entry) := by
        rw [hget, hentry, Option.filter_some, if_pos hkept, Option.map_some]
      exact List.ne_nil_of_mem (OrderedDict.get?_eq_some_iff.mp hfound)
    · intro item hitem
      have hfound := OrderedDict.get?_eq_some_iff.mpr hitem
      rw [hget, Option.map_eq_some_iff] at hfound
      obtain ⟨entry, hentry, -⟩ := hfound
      obtain ⟨hentry, -⟩ := Option.filter_eq_some_iff.mp hentry
      exact hvalid.tools.names (item.1, entry) (OrderedDict.get?_eq_some_iff.mp hentry)
    · intro item hitem
      have hfound := OrderedDict.get?_eq_some_iff.mpr hitem
      rw [hget, Option.map_eq_some_iff] at hfound
      obtain ⟨entry, hentry, hsame⟩ := hfound
      obtain ⟨hentry, hkept⟩ := Option.filter_eq_some_iff.mp hentry
      rw [← hsame, cappedEntry_schemaValid_iff hlayers (hentries item.1 entry hentry)]
      intro hcaps hside
      by_cases hfilters : ∃ layer ∈ layers, layer.filtersTools = true
      · rw [(keptByAll_iff.mp hkept).1 hfilters] at hside
        cases hside
      · exact hcomposes.spend hcaps hfilters item.1 entry hentry hside

end Layers

/-! ## A tool that reads its amount -/

/-- A paid tool that reads its amount from the arguments, beside a free one. -/
def fareBudgetPolicy : PyValue := .dict
  [("version", .int 1), ("name", .str "fares-v1"), ("default_deny", .bool true),
    ("tools", .dict
      [("fares.book", .dict [("side_effecting", .bool true),
          ("spend_from_args", .str "amount_cents"),
          ("evidence_preset", .str "cost_and_completion")]),
        ("search.fares", .dict [("side_effecting", .bool false)])])]

def noIntText (_ : String) : Except PyExc Int :=
  .error (.valueError "invalid literal for int() with base 10")

theorem composePolicyLayers_inSchema_fares : ∃ document result,
    parsePaybondPolicyDocumentV1 fareBudgetPolicy = .ok document ∧
      composePolicyLayers textTravel noIntText document
        [Guardrails.strict, Guardrails.readOnlySearch] = .ok result ∧
      (parsePaybondPolicyDocumentV1 (policyDocumentToDict result) = .ok result ↔
        ComposesInSchema document [Guardrails.strict, Guardrails.readOnlySearch]) := by
  refine ⟨_, _, rfl, rfl, @composePolicyLayers_inSchema_iff textTravel noIntText _ _ fareBudgetPolicy
    [Guardrails.strict, Guardrails.readOnlySearch] rfl ?_ rfl⟩
  intro layer hlayer
  rcases List.mem_cons.mp hlayer with rfl | hlayer
  · exact .strict
  · rw [List.mem_singleton.mp hlayer]
    exact .readOnlySearch

/-- A cap is set beside `spend_from_args`, and the result is not read back. -/
theorem maxSpend_leaves_schema : ∃ document layer result,
    parsePaybondPolicyDocumentV1 fareBudgetPolicy = .ok document ∧
      Guardrails.maxSpend 5000 = .ok layer ∧
      composePolicyLayers textTravel noIntText document [layer] = .ok result ∧
      (∃ entry, result.tools.get? "fares.book" = some entry ∧
        entry.maxSpendCents = some 5000 ∧ entry.spendFromArgs = some "amount_cents") ∧
      parsePaybondPolicyDocumentV1 (policyDocumentToDict result) ≠ .ok result := by
  refine ⟨_, _, _, rfl, rfl, rfl, ⟨_, rfl, rfl, rfl⟩, fun hread => ?_⟩
  cases hread

end PaybondKit.Policy
