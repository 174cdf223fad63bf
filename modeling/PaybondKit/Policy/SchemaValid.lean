import PaybondKit.Policy.Schema

/-!
# What the parsers guarantee

Every document that a parser returns satisfies the well-formedness conditions
stated here.
-/

namespace PaybondKit.Policy

structure PaybondPolicyToolEntry.WellFormed (entry : PaybondPolicyToolEntry) : Prop where
  spend_exclusive : entry.maxSpendCents = none ∨ entry.spendFromArgs = none
  evidence_preset : entry.sideEffecting = true → entry.evidencePreset.isSome

structure PaybondPolicyBinding.WellFormed (binding : PaybondPolicyBinding) : Prop where
  template_id : binding.templateId ≠ ""
  head_digest : binding.headDigest ≠ some ""

/-- A budget names its currency, and its cap is a number that is not below zero. -/
structure BudgetWellFormed (budget : OrderedDict String PyValue) : Prop where
  currency : budget.contains "currency"
  max_spend_usd : ∀ amount, budget.get? "max_spend_usd" = some amount →
    ∃ number, amount.number? = some number ∧ ¬number < .finite 0

structure PaybondPolicyIntentSection.WellFormed (intent : PaybondPolicyIntentSection) : Prop where
  policy_binding : ∀ binding ∈ intent.policyBinding, binding.WellFormed
  budget : ∀ budget ∈ intent.budget, BudgetWellFormed budget

structure PaybondPolicyDocumentV1.WellFormed (document : PaybondPolicyDocumentV1) : Prop where
  tools : ∀ toolName entry, document.tools.get? toolName = some entry → entry.WellFormed
  intent : ∀ intent ∈ document.intent, intent.WellFormed

structure PaybondPolicyDocumentV2.WellFormed (document : PaybondPolicyDocumentV2) : Prop where
  tools : ∀ toolName entry, document.tools.get? toolName = some entry → entry.WellFormed
  intent : ∀ intent ∈ document.intent, intent.WellFormed
  override_budget : ∀ overrides ∈ document.overrides, ∀ intent ∈ overrides.intent,
    ∀ budget ∈ intent.budget, BudgetWellFormed budget

def PaybondPolicyDocument.WellFormed : PaybondPolicyDocument → Prop
  | .v1 document => document.WellFormed
  | .v2 document => document.WellFormed

section Parsed

variable {α β : Type}

/-- Whatever `parse` accepts satisfies `p`. -/
def Guarantees (parse : PyValue → String → Parsed α) (p : α → Prop) : Prop :=
  ∀ raw path value, parse raw path = .ok value → p value

theorem optionalAt_guarantees {parse : PyValue → String → Parsed α} {p : α → Prop}
    (hparse : Guarantees parse p) {mapping : OrderedDict String PyValue} {field path : String}
    {result : Option α} (hresult : optionalAt mapping field path parse = .ok result) :
    ∀ value ∈ result, p value := by
  unfold optionalAt at hresult
  split at hresult
  · cases hresult
    simp
  next raw _ =>
    obtain ⟨value, hvalue, rfl⟩ := except_map_eq_ok.mp hresult
    simpa using hparse _ _ _ hvalue

/-- The loop over a tools mapping stores what `parse` makes of the items. -/
theorem parseToolItems_get? {parse : PyValue → String → Parsed α} {path : String}
    {items : List (String × PyValue)} {tools : OrderedDict String α}
    (htools : parseToolItems parse path items = .ok tools) {toolName : String} {entry : α}
    (hentry : tools.get? toolName = some entry) :
    ∃ raw, (toolName, raw) ∈ items ∧ parse raw s!"{path}.{toolName}" = .ok entry := by
  refine except_foldlM_invariant (fun tools : OrderedDict String α => ∀ toolName entry,
    tools.get? toolName = some entry →
      ∃ raw, (toolName, raw) ∈ items ∧ parse raw s!"{path}.{toolName}" = .ok entry)
    ?_ (by simp) htools toolName entry hentry
  rintro stored ⟨name, raw⟩ hitem hstored next hnext other found hfound
  split at hnext
  · obtain ⟨parsed, hparsed, rfl⟩ := except_map_eq_ok.mp hnext
    rw [OrderedDict.get?_set] at hfound
    split at hfound
    next hsame =>
      cases hfound
      subst hsame
      exact ⟨raw, hitem, hparsed⟩
    next => exact hstored other found hfound
  · cases hnext

/-- The loop stores an entry for every item. -/
theorem parseToolItems_contains {parse : PyValue → String → Parsed α} {path : String}
    {items : List (String × PyValue)} {tools : OrderedDict String α}
    (htools : parseToolItems parse path items = .ok tools) {toolName : String}
    (hmem : toolName ∈ items.map Prod.fst) : tools.contains toolName = true := by
  unfold parseToolItems at htools
  generalize OrderedDict.empty = stored at htools
  have hkept : ∀ (items : List (String × PyValue)) (stored : OrderedDict String α),
      toolName ∈ items.map Prod.fst ∨ stored.contains toolName = true →
      items.foldlM (fun tools (item : String × PyValue) =>
        if toolNameRe item.1 then
          tools.set item.1 <$> parse item.2 s!"{path}.{item.1}"
        else
          .error { message := s!"{path} key \"{item.1}\" must be a lowercase tool name", path })
        stored = Except.ok tools → tools.contains toolName = true := by
    intro items
    induction items with
    | nil =>
        intro stored hstored hresult
        cases hresult
        simpa using hstored
    | cons item items ih =>
        intro stored hstored hresult
        rw [List.foldlM_cons] at hresult
        obtain ⟨next, hnext, hrest⟩ := except_bind_eq_ok.mp hresult
        refine ih next ?_ hrest
        split at hnext
        · obtain ⟨entry, -, rfl⟩ := except_map_eq_ok.mp hnext
          rw [List.map_cons, List.mem_cons] at hstored
          by_cases hsame : toolName = item.1
          · exact .inr (by simp [OrderedDict.contains, hsame])
          · simpa [OrderedDict.contains, OrderedDict.get?_set, hsame] using hstored
        · cases hnext
  exact hkept items stored (.inl hmem) htools

/-- The loop over a tools mapping stores only entries that `parse` accepted. -/
theorem parseToolItems_guarantees {parse : PyValue → String → Parsed α} {p : α → Prop}
    (hparse : Guarantees parse p) {path : String} {items : List (String × PyValue)}
    {tools : OrderedDict String α} (htools : parseToolItems parse path items = .ok tools) :
    ∀ toolName entry, tools.get? toolName = some entry → p entry := by
  intro toolName entry hentry
  obtain ⟨raw, -, hparsed⟩ := parseToolItems_get? htools hentry
  exact hparse raw _ entry hparsed

end Parsed

/-- A pattern check lets only non-empty strings through. -/
theorem expectPattern_guarantees (pattern : String → Bool) (expected : String) :
    Guarantees (expectPattern pattern expected) fun value => value ≠ "" := by
  intro raw path value hvalue
  obtain ⟨parsed, hparsed, hresult⟩ := except_bind_eq_ok.mp hvalue
  have hne : parsed ≠ "" := by
    unfold expectStr at hparsed
    split at hparsed
    · cases hparsed
    next hempty =>
      cases hparsed
      exact hempty
    · cases hparsed
  split at hresult
  · cases hresult
    exact hne
  · cases hresult

theorem parseToolEntry_guarantees :
    Guarantees parseToolEntry PaybondPolicyToolEntry.WellFormed := by
  intro raw path entry hentry
  simp only [parseToolEntry, except_bind_eq_ok, except_pure_eq_ok] at hentry
  obtain ⟨mapping, -, _, -, sideEffecting, -, cap, -, argsPath, -, _, hspend, preset, -, _,
    hpreset, vendorPack, -, operation, -, rfl⟩ := hentry
  constructor
  · simp only [rejectSpendConflict, except_guard_eq_ok] at hspend
    rcases cap with _ | cap
    · exact .inl rfl
    · rcases argsPath with _ | argsPath
      · exact .inr rfl
      · exact absurd rfl hspend.1
  · intro hsideEffecting
    simp only [requireEvidencePreset, except_guard_eq_ok] at hpreset
    cases preset with
    | none => exact absurd (by simpa using hsideEffecting) hpreset.1
    | some preset => rfl

theorem parsePolicyBinding_guarantees :
    Guarantees parsePolicyBinding PaybondPolicyBinding.WellFormed := by
  intro raw path binding hbinding
  simp only [parsePolicyBinding, except_bind_eq_ok, except_pure_eq_ok] at hbinding
  obtain ⟨mapping, -, _, -, templateId, htemplate, versionSeq, -, headDigest, hhead, rfl⟩ :=
    hbinding
  constructor
  · exact expectPattern_guarantees _ _ _ _ _ htemplate
  · rintro rfl
    exact optionalAt_guarantees (expectPattern_guarantees _ _) hhead "" rfl rfl

theorem parseBudget_guarantees : Guarantees parseBudget BudgetWellFormed := by
  intro raw path budget hbudget
  simp only [parseBudget, except_bind_eq_ok] at hbudget
  obtain ⟨mapping, -, currency, hcurrency, hbudget⟩ := hbudget
  have hcontains : mapping.contains "currency" := by
    cases hget : mapping.get? "currency" with
    | none =>
        rw [OrderedDict.getValue, hget] at hcurrency
        cases hcurrency
    | some value => simp [OrderedDict.contains, hget]
  split at hbudget
  next hnone =>
    cases hbudget
    exact ⟨hcontains, fun amount hamount => by simp [hnone] at hamount⟩
  next amount hsome =>
    split at hbudget
    · cases hbudget
    next number hnumber =>
      obtain ⟨hnonneg, hbudget⟩ := except_guard_eq_ok.mp hbudget
      cases hbudget
      refine ⟨hcontains, fun found hfound => ?_⟩
      cases hsome.symm.trans hfound
      exact ⟨number, hnumber, hnonneg⟩

theorem parseIntent_guarantees :
    Guarantees parseIntent PaybondPolicyIntentSection.WellFormed := by
  intro raw path intent hintent
  simp only [parseIntent, except_bind_eq_ok, except_pure_eq_ok] at hintent
  obtain ⟨mapping, -, _, -, binding, hbinding, budget, hbudget, allowedTools, -, rfl⟩ := hintent
  exact ⟨optionalAt_guarantees parsePolicyBinding_guarantees hbinding,
    optionalAt_guarantees parseBudget_guarantees hbudget⟩

theorem parseIntentOverride_guarantees :
    Guarantees parseIntentOverride fun intent =>
      ∀ budget ∈ intent.budget, BudgetWellFormed budget := by
  intro raw path intent hintent
  simp only [parseIntentOverride, except_bind_eq_ok, except_pure_eq_ok] at hintent
  obtain ⟨mapping, -, _, -, _, -, binding, -, budget, hbudget, allowedTools, -, rfl⟩ := hintent
  exact optionalAt_guarantees parseBudget_guarantees hbudget

theorem parseOverrides_guarantees :
    Guarantees parseOverrides fun overrides => ∀ intent ∈ overrides.intent,
      ∀ budget ∈ intent.budget, BudgetWellFormed budget := by
  intro raw path overrides hoverrides
  simp only [parseOverrides, except_bind_eq_ok, except_pure_eq_ok, except_guard_eq_ok]
    at hoverrides
  obtain ⟨mapping, -, _, -, defaultDeny, -, tools, -, intent, hintent, adapter, -, -, rfl⟩ :=
    hoverrides
  exact optionalAt_guarantees parseIntentOverride_guarantees hintent

theorem parseToolsMap_guarantees {raw : PyValue} {path : String} {minEntries : ℕ}
    {tools : OrderedDict String PaybondPolicyToolEntry}
    (htools : parseToolsMap raw path minEntries = .ok tools) :
    ∀ toolName entry, tools.get? toolName = some entry → entry.WellFormed := by
  unfold parseToolsMap at htools
  split at htools
  · obtain ⟨-, hitems⟩ := except_guard_eq_ok.mp htools
    exact parseToolItems_guarantees parseToolEntry_guarantees hitems
  · cases htools

theorem parsePaybondPolicyDocumentV1_wellFormed {raw : PyValue}
    {document : PaybondPolicyDocumentV1}
    (hdocument : parsePaybondPolicyDocumentV1 raw = .ok document) : document.WellFormed := by
  simp only [parsePaybondPolicyDocumentV1, except_bind_eq_ok, except_pure_eq_ok] at hdocument
  obtain ⟨doc, -, _, -, _, -, name, -, defaultDeny, -, tools, htools, intent, hintent, adapter, -,
    rfl⟩ := hdocument
  exact ⟨parseToolsMap_guarantees htools,
    optionalAt_guarantees parseIntent_guarantees hintent⟩

theorem parsePaybondPolicyDocumentV2_wellFormed {raw : PyValue}
    {document : PaybondPolicyDocumentV2}
    (hdocument : parsePaybondPolicyDocumentV2 raw = .ok document) : document.WellFormed := by
  simp only [parsePaybondPolicyDocumentV2, except_bind_eq_ok, except_pure_eq_ok] at hdocument
  obtain ⟨doc, -, _, -, _, -, name, -, defaultDeny, -, base, -, overrides, hoverrides, tools,
    htools, intent, hintent, adapter, -, rfl⟩ := hdocument
  exact ⟨parseToolsMap_guarantees htools,
    optionalAt_guarantees parseIntent_guarantees hintent,
    optionalAt_guarantees parseOverrides_guarantees hoverrides⟩

/-- Every document the parser accepts is well formed. -/
theorem parsePaybondPolicyDocument_wellFormed {raw : PyValue} {document : PaybondPolicyDocument}
    (hdocument : parsePaybondPolicyDocument raw = .ok document) : document.WellFormed := by
  obtain ⟨doc, -, hversion⟩ := except_bind_eq_ok.mp hdocument
  split at hversion
  · obtain ⟨parsed, hparsed, rfl⟩ := except_map_eq_ok.mp hversion
    exact parsePaybondPolicyDocumentV1_wellFormed hparsed
  · split at hversion
    · obtain ⟨parsed, hparsed, rfl⟩ := except_map_eq_ok.mp hversion
      exact parsePaybondPolicyDocumentV2_wellFormed hparsed
    · cases hversion

end PaybondKit.Policy
