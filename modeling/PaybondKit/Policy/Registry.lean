import PaybondKit.Agent.Registry

/-!
# Registries built from policy documents
-/

namespace PaybondKit.Policy

open Agent

/-- The registry policy of one side-effecting tool of a document. -/
def toolRegistryPolicy (toolName : String) (entry : PaybondPolicyToolEntry) :
    PaybondSideEffectingToolPolicy where
  evidencePreset := some (entry.evidencePreset.getD "")
  operation := truthyStr (entry.operation.map pyStrip)
  spendCents :=
    match entry.maxSpendCents, truthyStr entry.spendFromArgs with
    | some cap, _ => some (.cents cap)
    | none, some path => some (.jsonPath path toolName)
    | none, none => none

def policyDocumentToToolRegistryConfig (document : PaybondPolicyDocumentV1) :
    PaybondToolRegistryConfig where
  defaultDeny := document.defaultDeny
  sideEffecting :=
    (document.tools.filter fun _ entry => entry.sideEffecting).mapValues toolRegistryPolicy

def policyToToolRegistry (catalog : CompletionCatalog) (document : PaybondPolicyDocumentV1) :
    Except PyExc PaybondToolRegistry :=
  createPaybondToolRegistry catalog (policyDocumentToToolRegistryConfig document)

/-- The document has the tool, as a side-effecting one. -/
def PaybondPolicyDocumentV1.SideEffecting (document : PaybondPolicyDocumentV1)
    (toolName : String) : Prop :=
  ∃ entry, document.tools.get? toolName = some entry ∧ entry.sideEffecting = true

theorem normalizeEntry_error {catalog : CompletionCatalog} {operations : OrderedDict String String}
    {toolName : String} {policy : PaybondSideEffectingToolPolicy} {exception : PyExc}
    (hentry : normalizeEntry catalog operations toolName policy = .error exception) :
    ∃ message, exception = .toolRegistryValidation message := by
  unfold normalizeEntry at hentry
  dsimp only at hentry
  repeat' split at hentry
  all_goals cases hentry
  all_goals exact ⟨_, rfl⟩

/-- A configuration is only rejected as one. -/
theorem createPaybondToolRegistry_error {catalog : CompletionCatalog}
    {config : PaybondToolRegistryConfig} {exception : PyExc}
    (hcreate : createPaybondToolRegistry catalog config = .error exception) :
    ∃ message, exception = .toolRegistryValidation message := by
  have hloop : ∀ (items : List (String × PaybondSideEffectingToolPolicy)) (normalized : Normalized),
      items.foldlM (normalizeStep catalog) normalized = .error exception →
        ∃ message, exception = .toolRegistryValidation message := by
    intro items
    induction items with
    | nil =>
        intro normalized hitems
        cases hitems
    | cons item items ih =>
        intro normalized hitems
        rw [List.foldlM_cons] at hitems
        cases hstep : normalizeStep catalog normalized item with
        | ok next =>
            rw [hstep] at hitems
            exact ih next hitems
        | error failure =>
            rw [hstep] at hitems
            cases hitems
            cases hentry : normalizeEntry catalog normalized.operations item.1 item.2 with
            | ok entry =>
                rw [normalizeStep, hentry] at hstep
                cases hstep
            | error failure =>
                rw [normalizeStep, hentry] at hstep
                cases hstep
                exact normalizeEntry_error hentry
  cases hentries : normalizeSideEffecting catalog config.sideEffecting with
  | ok entries =>
      rw [createPaybondToolRegistry, hentries] at hcreate
      cases hcreate
  | error failure =>
      rw [createPaybondToolRegistry, hentries] at hcreate
      cases hcreate
      cases hitems : config.sideEffecting.items.foldlM (normalizeStep catalog) {} with
      | ok normalized =>
          rw [normalizeSideEffecting, hitems] at hentries
          cases hentries
      | error failure =>
          rw [normalizeSideEffecting, hitems] at hentries
          cases hentries
          exact hloop _ _ hitems

section Normalize

variable {catalog : CompletionCatalog}

/-- The loop registers exactly the tools it was given. -/
theorem normalizeStep_foldlM_keys {items : List (String × PaybondSideEffectingToolPolicy)}
    {init normalized : Normalized}
    (hloop : items.foldlM (normalizeStep catalog) init = .ok normalized) (toolName : String) :
    normalized.entries.contains toolName = true ↔
      init.entries.contains toolName = true ∨ toolName ∈ items.map Prod.fst := by
  induction items generalizing init with
  | nil =>
      cases hloop
      simp
  | cons item items ih =>
      rw [List.foldlM_cons] at hloop
      obtain ⟨next, hnext, hrest⟩ := except_bind_eq_ok.mp hloop
      simp only [normalizeStep, except_bind_eq_ok, except_pure_eq_ok] at hnext
      obtain ⟨entry, -, rfl⟩ := hnext
      rw [ih hrest, List.map_cons, List.mem_cons]
      have hcontains : (init.entries.set item.1 entry).contains toolName = true ↔
          toolName = item.1 ∨ init.entries.contains toolName = true := by
        simp only [OrderedDict.contains, OrderedDict.get?_set]
        split <;> simp_all
      rw [hcontains]
      exact or_assoc.trans or_left_comm

/-- What a successful round registers. -/
structure Registers (toolName : String) (policy : PaybondSideEffectingToolPolicy)
    (entry : PaybondSideEffectingToolEntry) : Prop where
  operation : entry.operation = pyStrip (policy.operation.getD toolName)
  spend_cents : entry.spendCents = policy.spendCents

theorem normalizeEntry_registers {operations : OrderedDict String String} {toolName : String}
    {policy : PaybondSideEffectingToolPolicy} {entry : PaybondSideEffectingToolEntry}
    (hentry : normalizeEntry catalog operations toolName policy = .ok entry) :
    Registers toolName policy entry ∧
      ∀ previous, operations.get? entry.operation = some previous → previous = toolName := by
  unfold normalizeEntry at hentry
  split at hentry
  · cases hentry
  dsimp only at hentry
  split at hentry
  · cases hentry
  split at hentry
  · cases hentry
  split at hentry
  · cases hentry
  split at hentry
  next previousTool hprevious =>
    split at hentry
    · cases hentry
    next hsame =>
      cases hentry
      refine ⟨⟨rfl, rfl⟩, fun previous hfound => ?_⟩
      cases hprevious.symm.trans hfound
      exact not_not.mp hsame
  next hnone =>
    cases hentry
    exact ⟨⟨rfl, rfl⟩, fun previous hfound => nomatch hnone.symm.trans hfound⟩

/-- Every entry is indexed under its operation. -/
def OperationsIndexed (normalized : Normalized) : Prop :=
  ∀ toolName entry, normalized.entries.get? toolName = some entry →
    normalized.operations.get? entry.operation = some toolName

theorem normalizeStep_indexed {normalized next : Normalized}
    {item : String × PaybondSideEffectingToolPolicy} (hindexed : OperationsIndexed normalized)
    (hnext : normalizeStep catalog normalized item = .ok next) : OperationsIndexed next := by
  simp only [normalizeStep, except_bind_eq_ok, except_pure_eq_ok] at hnext
  obtain ⟨entry, hentry, rfl⟩ := hnext
  obtain ⟨-, hfree⟩ := normalizeEntry_registers hentry
  intro toolName other hother
  simp only [OrderedDict.get?_set] at hother ⊢
  split at hother
  next hsame =>
    cases hother
    rw [if_pos rfl, hsame]
  next hne =>
    have hprevious := hindexed toolName other hother
    rw [if_neg]
    · exact hprevious
    -- an operation that is taken again belongs to the same tool
    · intro hoperation
      rw [hoperation] at hprevious
      exact hne (hfree toolName hprevious)

theorem normalizeStep_registers {items : List (String × PaybondSideEffectingToolPolicy)}
    {normalized : Normalized}
    (hloop : items.foldlM (normalizeStep catalog) {} = .ok normalized) {toolName : String}
    {entry : PaybondSideEffectingToolEntry} (hentry : normalized.entries.get? toolName = some entry) :
    ∃ policy, (toolName, policy) ∈ items ∧ Registers toolName policy entry := by
  refine except_foldlM_invariant (fun normalized : Normalized =>
    ∀ toolName entry, normalized.entries.get? toolName = some entry →
      ∃ policy, (toolName, policy) ∈ items ∧ Registers toolName policy entry)
    ?_ (by simp) hloop toolName entry hentry
  rintro normalized ⟨name, policy⟩ hitem hknown next hnext other found hfound
  simp only [normalizeStep, except_bind_eq_ok, except_pure_eq_ok] at hnext
  obtain ⟨entry, hentry, rfl⟩ := hnext
  rw [OrderedDict.get?_set] at hfound
  split at hfound
  next hsame =>
    cases hfound
    subst hsame
    exact ⟨policy, hitem, (normalizeEntry_registers hentry).1⟩
  next => exact hknown other found hfound

end Normalize

section Document

variable {catalog : CompletionCatalog} {document : PaybondPolicyDocumentV1}
variable {registry : PaybondToolRegistry}

theorem policyToToolRegistry_defaultDeny
    (hregistry : policyToToolRegistry catalog document = .ok registry) :
    registry.defaultDeny = document.defaultDeny := by
  obtain ⟨entries, -, hcreate⟩ := except_bind_eq_ok.mp hregistry
  obtain rfl := except_pure_eq_ok.mp hcreate
  rfl

/-- A registry built from a document registers its side-effecting tools. -/
theorem policyToToolRegistry_contains
    (hregistry : policyToToolRegistry catalog document = .ok registry) (toolName : String) :
    registry.sideEffecting.contains toolName = true ↔ document.SideEffecting toolName := by
  obtain ⟨entries, hentries, hcreate⟩ := except_bind_eq_ok.mp hregistry
  obtain rfl := except_pure_eq_ok.mp hcreate
  obtain ⟨normalized, hloop, rfl⟩ := except_map_eq_ok.mp hentries
  rw [normalizeStep_foldlM_keys hloop, ← OrderedDict.keys, ← OrderedDict.contains_iff]
  have hget : (policyDocumentToToolRegistryConfig document).sideEffecting.get? toolName =
      ((document.tools.get? toolName).filter (·.sideEffecting)).map
        (toolRegistryPolicy toolName) := by
    rw [policyDocumentToToolRegistryConfig, OrderedDict.get?_mapValues, OrderedDict.get?_filter]
  simp only [OrderedDict.contains, OrderedDict.get?_empty, hget,
    PaybondPolicyDocumentV1.SideEffecting]
  cases document.tools.get? toolName with
  | none => simp
  | some entry => simp [Option.filter, apply_ite Option.isSome]

/-- The operation under which a document's tool is registered. -/
def registeredOperation (toolName : String) (entry : PaybondPolicyToolEntry) : String :=
  pyStrip ((toolRegistryPolicy toolName entry).operation.getD toolName)

/-- Each registered tool is a side-effecting tool of the document. -/
theorem policyToToolRegistry_get? {toolName : String} {registered : PaybondSideEffectingToolEntry}
    (hregistry : policyToToolRegistry catalog document = .ok registry)
    (hregistered : registry.sideEffecting.get? toolName = some registered) :
    ∃ entry, document.tools.get? toolName = some entry ∧ entry.sideEffecting = true ∧
      registered.operation = registeredOperation toolName entry ∧
      registered.spendCents = (toolRegistryPolicy toolName entry).spendCents := by
  obtain ⟨entries, hentries, hcreate⟩ := except_bind_eq_ok.mp hregistry
  obtain rfl := except_pure_eq_ok.mp hcreate
  obtain ⟨normalized, hloop, rfl⟩ := except_map_eq_ok.mp hentries
  obtain ⟨policy, hpolicy, hregisters⟩ := normalizeStep_registers hloop hregistered
  rw [← OrderedDict.get?_eq_some_iff, policyDocumentToToolRegistryConfig,
    OrderedDict.get?_mapValues, OrderedDict.get?_filter, Option.map_eq_some_iff] at hpolicy
  obtain ⟨entry, hentry, rfl⟩ := hpolicy
  obtain ⟨hentry, hside⟩ := Option.filter_eq_some_iff.mp hentry
  exact ⟨entry, hentry, hside, hregisters.operation, hregisters.spend_cents⟩

/-- No two registered tools have the same operation. -/
theorem policyToToolRegistry_operation_unique {first second : String}
    {entry entry' : PaybondSideEffectingToolEntry}
    (hregistry : policyToToolRegistry catalog document = .ok registry)
    (hfirst : registry.sideEffecting.get? first = some entry)
    (hsecond : registry.sideEffecting.get? second = some entry')
    (hoperation : entry.operation = entry'.operation) : first = second := by
  obtain ⟨entries, hentries, hcreate⟩ := except_bind_eq_ok.mp hregistry
  obtain rfl := except_pure_eq_ok.mp hcreate
  obtain ⟨normalized, hloop, rfl⟩ := except_map_eq_ok.mp hentries
  have hindexed : OperationsIndexed normalized :=
    except_foldlM_invariant OperationsIndexed
      (fun _ _ _ hindexed _ hnext => normalizeStep_indexed hindexed hnext)
      (by simp [OperationsIndexed]) hloop
  have hfirst := hindexed first entry hfirst
  have hsecond := hindexed second entry' hsecond
  rw [hoperation] at hfirst
  exact Option.some.inj (hfirst.symm.trans hsecond)

end Document

end PaybondKit.Policy
