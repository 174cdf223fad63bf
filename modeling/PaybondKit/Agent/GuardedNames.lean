import PaybondKit.Agent.Interceptor
import PaybondKit.Foundation.Ending
import PaybondKit.Policy.Registry

/-!
# Tools guarded under their own names

A registry keeps the names of its tools as they are written. The interceptor strips the name of a
call before it looks it up, so it finds a tool just if its name has no space around it.
-/

namespace PaybondKit.Agent

open Coroutine Policy

/-- Every tool of the registry is guarded, under a name that is no other's. -/
structure GuardsOwnNames (registry : PaybondToolRegistry) : Prop where
  resolves : ∀ name ∈ registry.sideEffecting.keys, ∀ allowedTools, ∃ toolName operation entry,
    registry.resolveTool (pyStrip name) allowedTools = .sideEffecting toolName operation entry
  distinct : ∀ name ∈ registry.sideEffecting.keys, ∀ other ∈ registry.sideEffecting.keys,
    ∀ allowedTools toolName otherName operation otherOperation entry,
      registry.resolveTool (pyStrip name) allowedTools = .sideEffecting toolName operation entry →
      registry.resolveTool (pyStrip other) allowedTools =
        .sideEffecting otherName otherOperation entry → name = other
  /-- `wrap_execute` goes on, from the registry it reads, with the guarded execution. -/
  executes : ∀ (platform : Platform) (binding : PaybondRunBinding) (input : ToolCallInput)
    (pinnedDigest : Option String) (later : List (Exchange Val PyExc)) outcome,
    input.toolName ∈ registry.sideEffecting.keys →
    (wrapInFlight platform binding input pinnedDigest).Ends
      (⟨.access .readRegistry, .ok registry⟩ :: later) outcome →
    ∃ entry, registry.sideEffecting.get? (pyStrip input.toolName) = some entry ∧
      (wrapSideEffecting platform binding (pyStrip input.toolName) (pyStrip input.toolCallId) input
        entry entry.operation pinnedDigest).Ends later outcome
  /-- `authorize_tool_call` does not let the call pass. -/
  evaluates : ∀ (binding : PaybondRunBinding) (input : ToolCallInput)
    (pinnedDigest : Option String) (later : List (Exchange Val PyExc)) passthrough operation auditId
    decisionId policyDigest, input.toolName ∈ registry.sideEffecting.keys →
    (authorizeInFlight binding input pinnedDigest).Ends
      (⟨.access .readRegistry, .ok registry⟩ :: later)
      (.ok (.allow passthrough operation auditId decisionId policyDigest)) → passthrough = false

section Registered

variable {catalog : CompletionCatalog} {config : PaybondToolRegistryConfig}
  {registry : PaybondToolRegistry} {toolName : String} {entry : PaybondSideEffectingToolEntry}

theorem normalizeEntry_toolName {operations : OrderedDict String String}
    {policy : PaybondSideEffectingToolPolicy}
    (hentry : normalizeEntry catalog operations toolName policy = .ok entry) :
    entry.toolName = toolName := by
  unfold normalizeEntry at hentry
  split at hentry
  · cases hentry
  dsimp only at hentry
  split at hentry
  · cases hentry
  split at hentry
  · cases hentry
  split at hentry
  · cases hentry
  split at hentry
  · split at hentry
    · cases hentry
    · cases hentry
      rfl
  · cases hentry
    rfl

/-- A registry has the names of its configuration. -/
theorem mem_keys_createPaybondToolRegistry
    (hregistry : createPaybondToolRegistry catalog config = .ok registry) :
    toolName ∈ registry.sideEffecting.keys ↔ toolName ∈ config.sideEffecting.keys := by
  obtain ⟨entries, hentries, hcreate⟩ := except_bind_eq_ok.mp hregistry
  obtain rfl := except_pure_eq_ok.mp hcreate
  obtain ⟨normalized, hloop, rfl⟩ := except_map_eq_ok.mp hentries
  rw [← OrderedDict.contains_iff, normalizeStep_foldlM_keys hloop]
  simp [OrderedDict.contains, OrderedDict.keys]

/-- An entry tells the name it is registered under. -/
theorem toolName_createPaybondToolRegistry
    (hregistry : createPaybondToolRegistry catalog config = .ok registry)
    (hentry : registry.sideEffecting.get? toolName = some entry) : entry.toolName = toolName := by
  obtain ⟨entries, hentries, hcreate⟩ := except_bind_eq_ok.mp hregistry
  obtain rfl := except_pure_eq_ok.mp hcreate
  obtain ⟨normalized, hloop, rfl⟩ := except_map_eq_ok.mp hentries
  refine except_foldlM_invariant (fun normalized : Normalized =>
    ∀ toolName entry, normalized.entries.get? toolName = some entry → entry.toolName = toolName)
    ?_ (by simp) hloop toolName entry hentry
  rintro normalized ⟨name, policy⟩ - hknown next hnext other found hfound
  simp only [normalizeStep, except_bind_eq_ok, except_pure_eq_ok] at hnext
  obtain ⟨entry, hentry, rfl⟩ := hnext
  rw [OrderedDict.get?_set] at hfound
  split at hfound
  next hsame =>
    cases hfound
    rw [hsame]
    exact normalizeEntry_toolName hentry
  next => exact hknown other found hfound

end Registered

section Names

variable {registry : PaybondToolRegistry}

theorem ends_readRegistry {α : Type} {rest : PaybondToolRegistry → Routine α}
    {later : List (Exchange Val PyExc)} {outcome : Except PyExc α} :
    (access .readRegistry >>= rest).Ends (⟨.access .readRegistry, .ok registry⟩ :: later) outcome ↔
      (rest registry).Ends later outcome := by
  constructor
  · rintro ⟨⟩
    assumption
  · exact fun hrest => .answered hrest

theorem isSome_of_mem_keys {name : String} (hname : name ∈ registry.sideEffecting.keys) :
    ∃ entry, registry.sideEffecting.get? name = some entry :=
  Option.isSome_iff_exists.mp (OrderedDict.contains_iff.mpr hname)

theorem not_allow_decideRefusal {binding : PaybondRunBinding} {toolCallId operation : String}
    {exception : PyExc} {past : List (Exchange Val PyExc)}
    {decision : PaybondToolInputGuardDecision}
    (hends : (decideRefusal binding toolCallId operation exception).Ends past (.ok decision)) :
    ∀ passthrough operation auditId decisionId policyDigest,
      decision ≠ .allow passthrough operation auditId decisionId policyDigest := by
  unfold decideRefusal at hends
  split at hends
  · obtain ⟨_, _, _, _, _, hret⟩ := returns_bind.mp hends
    obtain ⟨-, hok⟩ := ends_ret.mp hret
    cases hok
    exact fun _ _ _ _ _ hallow => by cases hallow
  · obtain ⟨_, _, _, _, _, hret⟩ := returns_bind.mp hends
    obtain ⟨-, hok⟩ := ends_ret.mp hret
    cases hok
    exact fun _ _ _ _ _ hallow => by cases hallow
  · obtain ⟨-, hok⟩ := ends_raise.mp hends
    cases hok

/-- A resolved call that is allowed does not pass through. -/
theorem passthrough_authorizeResolved {binding : PaybondRunBinding} {toolName toolCallId : String}
    {resolved : ResolvedCall} {pinnedDigest : Option String} {past : List (Exchange Val PyExc)}
    {passthrough : Bool} {operation : String} {auditId decisionId policyDigest : Option String}
    (hends : (authorizeResolved binding toolName toolCallId resolved pinnedDigest).Ends past
      (.ok (.allow passthrough operation auditId decisionId policyDigest))) :
    passthrough = false := by
  unfold authorizeResolved at hends
  obtain ⟨_, _, _, _, _, hends⟩ := returns_bind.mp hends
  obtain ⟨answer, _, _, _, hanswer, hends⟩ := returns_bind.mp hends
  cases answer with
  | inl decision =>
      obtain ⟨-, hdecision⟩ := ends_ret.mp hends
      cases hdecision
      rcases returns_tryExcept.mp hanswer with hright | ⟨exception, _, _, _, _, hhandler⟩
      · obtain ⟨auth, _, _, _, _, hret⟩ := returns_bind.mp hright
        obtain ⟨-, hok⟩ := ends_ret.mp hret
        cases hok
      · obtain ⟨decision, _, _, _, hrefusal, hret⟩ := returns_bind.mp hhandler
        obtain ⟨-, hok⟩ := ends_ret.mp hret
        cases hok
        exact absurd rfl (not_allow_decideRefusal hrefusal _ _ _ _ _)
  | inr auth =>
      obtain ⟨_, _, _, _, _, hends⟩ := returns_bind.mp hends
      obtain ⟨_, _, _, _, _, hends⟩ := returns_bind.mp hends
      obtain ⟨-, hok⟩ := ends_ret.mp hends
      cases hok
      rfl

/-- After the lookup `authorize_tool_call` answers that a call passes only where the name is not
registered. -/
theorem passthrough_authorizeInFlight {binding : PaybondRunBinding} {input : ToolCallInput}
    {pinnedDigest : Option String} {later : List (Exchange Val PyExc)} {passthrough : Bool}
    {operation : String} {auditId decisionId policyDigest : Option String}
    {entry : PaybondSideEffectingToolEntry}
    (hentry : registry.sideEffecting.get? (pyStrip input.toolName) = some entry)
    (hends : (authorizeInFlight binding input pinnedDigest).Ends
      (⟨.access .readRegistry, .ok registry⟩ :: later)
      (.ok (.allow passthrough operation auditId decisionId policyDigest))) :
    passthrough = false := by
  unfold authorizeInFlight at hends
  have hrest := ends_readRegistry.mp hends
  rw [PaybondToolRegistry.resolveTool_sideEffecting hentry] at hrest
  obtain ⟨resolution, before, after, -, hresolves, hrest⟩ := returns_bind.mp hrest
  cases resolution with
  | inl decision =>
      -- only the handler answers with a decision, which denies
      obtain ⟨-, hdecision⟩ := ends_ret.mp hrest
      rcases returns_tryExcept.mp hresolves with hright | ⟨exception, _, _, _, _, hhandler⟩
      · obtain ⟨resolved, _, _, _, _, hret⟩ := returns_bind.mp hright
        obtain ⟨-, hok⟩ := ends_ret.mp hret
        cases hok
      · split at hhandler
        · obtain ⟨-, hok⟩ := ends_ret.mp hhandler
          cases hok
          cases hdecision
        · obtain ⟨-, hok⟩ := ends_raise.mp hhandler
          cases hok
  | inr resolved => exact passthrough_authorizeResolved hrest

theorem guardsOwnNames_of_stripped
    (hentries : ∀ name entry, registry.sideEffecting.get? name = some entry → entry.toolName = name)
    (hstripped : ∀ name ∈ registry.sideEffecting.keys, pyStrip name = name) :
    GuardsOwnNames registry where
  resolves name hname allowedTools := by
    obtain ⟨entry, hentry⟩ := isSome_of_mem_keys hname
    rw [hstripped name hname, PaybondToolRegistry.resolveTool_sideEffecting hentry]
    exact ⟨_, _, _, rfl⟩
  distinct name hname other hother allowedTools toolName otherName operation otherOperation entry
      hfirst hsecond := by
    rw [hstripped name hname] at hfirst
    rw [hstripped other hother] at hsecond
    have hentry := (PaybondToolRegistry.resolveTool_eq_sideEffecting hfirst).2
    have hentry' := (PaybondToolRegistry.resolveTool_eq_sideEffecting hsecond).2
    exact (hentries _ _ hentry).symm.trans (hentries _ _ hentry')
  executes platform binding input pinnedDigest later outcome hname hends := by
    obtain ⟨entry, hentry⟩ := isSome_of_mem_keys hname
    rw [← hstripped _ hname] at hentry
    unfold wrapInFlight at hends
    have hrest := ends_readRegistry.mp hends
    rw [PaybondToolRegistry.resolveTool_sideEffecting hentry] at hrest
    exact ⟨entry, hentry, hrest⟩
  evaluates binding input pinnedDigest later passthrough operation auditId decisionId policyDigest
      hname hends := by
    obtain ⟨entry, hentry⟩ := isSome_of_mem_keys hname
    rw [← hstripped _ hname] at hentry
    exact passthrough_authorizeInFlight hentry hends

/-- A name with space around it is not found, or finds the entry of another tool. -/
theorem stripped_of_guardsOwnNames (hguards : GuardsOwnNames registry) :
    ∀ name ∈ registry.sideEffecting.keys, pyStrip name = name := by
  intro name hname
  obtain ⟨toolName, operation, entry, hresolution⟩ := hguards.resolves name hname none
  have hentry := (PaybondToolRegistry.resolveTool_eq_sideEffecting hresolution).2
  have hother : pyStrip name ∈ registry.sideEffecting.keys := by
    rw [← OrderedDict.contains_iff, OrderedDict.contains, hentry]
    rfl
  have hagain : registry.resolveTool (pyStrip (pyStrip name)) none =
      .sideEffecting toolName operation entry := by
    rw [pyStrip_pyStrip]
    exact hresolution
  exact hguards.distinct _ hother _ hname none _ _ _ _ _ hagain hresolution

end Names

/-- A registry that is accepted guards its tools under their own names just if no name has space
around it. -/
theorem guardsOwnNames_iff {catalog : CompletionCatalog} {config : PaybondToolRegistryConfig}
    {registry : PaybondToolRegistry}
    (hregistry : createPaybondToolRegistry catalog config = .ok registry) :
    GuardsOwnNames registry ↔ ∀ name ∈ config.sideEffecting.keys, pyStrip name = name := by
  constructor
  · intro hguards name hname
    exact stripped_of_guardsOwnNames hguards name
      ((mem_keys_createPaybondToolRegistry hregistry).mpr hname)
  · intro hstripped
    refine guardsOwnNames_of_stripped
      (fun name entry hentry => toolName_createPaybondToolRegistry hregistry hentry) ?_
    intro name hname
    exact hstripped name ((mem_keys_createPaybondToolRegistry hregistry).mp hname)

/-! ## A name with space around it -/

def catalogWire : CompletionCatalog := ⟨[⟨"cost_and_completion", "builtin"⟩]⟩

/-- One tool under the given name. -/
def configWire (toolName : String) : PaybondToolRegistryConfig where
  sideEffecting :=
    .ofList [(toolName, { evidencePreset := some "cost_and_completion", operation := some "wire" })]

def entryWire (toolName : String) : PaybondSideEffectingToolEntry where
  toolName := toolName
  operation := "wire"
  evidencePreset := "cost_and_completion"

def registryWire (toolName : String) : PaybondToolRegistry where
  defaultDeny := false
  sideEffecting := .ofList [(toolName, entryWire toolName)]

theorem guardsOwnNames_iff_wire : GuardsOwnNames (registryWire "wire") := by
  have hregistry : createPaybondToolRegistry catalogWire (configWire "wire") =
      .ok (registryWire "wire") := by rfl
  refine (guardsOwnNames_iff hregistry).mpr ?_
  decide +kernel

def bindingWire : PaybondRunBinding where
  runId := "run-1"
  tenantId := "tenant-a"
  intentId := "intent-1"
  allowedTools := ["wire"]

def callWire : ToolCallInput where
  toolName := " wire"
  toolCallId := "call-1"

/-- The tool named with a space is accepted, and its call runs unguarded. -/
theorem passes_spaced_name :
    createPaybondToolRegistry catalogWire (configWire " wire") = .ok (registryWire " wire") ∧
      " wire" ∈ (registryWire " wire").sideEffecting.keys ∧
      ¬GuardsOwnNames (registryWire " wire") ∧
      ∀ platform, (wrapExecute platform bindingWire callWire).Ends
        [⟨.access .beginInFlight, .ok none⟩, ⟨.access .readRegistry, .ok (registryWire " wire")⟩,
          ⟨.host (.execute (.passthrough "wire" "call-1")), .ok (.value .none)⟩,
          ⟨.access .endInFlight, .ok ()⟩] (.ok { toolResult := .none }) := by
  have hregistry : createPaybondToolRegistry catalogWire (configWire " wire") =
      .ok (registryWire " wire") := by rfl
  refine ⟨hregistry, by decide +kernel, ?_, fun platform => ?_⟩
  · intro hguards
    have hstripped := stripped_of_guardsOwnNames hguards " wire" (by decide +kernel)
    exact absurd hstripped (by decide +kernel)
  · have hrequired : (requireToolCall callWire).Ends [] (.ok ()) := by
      unfold requireToolCall
      rw [if_neg (by decide +kernel), if_neg (by decide +kernel)]
      exact .ret ()
    have hpasses : (registryWire " wire").resolveTool (pyStrip callWire.toolName)
        (some bindingWire.allowedTools) = .passthrough "wire" := by decide +kernel
    have hname : pyStrip callWire.toolName = "wire" := by decide +kernel
    have hid : pyStrip callWire.toolCallId = "call-1" := by decide +kernel
    have hexecutes : (wrapInFlight platform bindingWire callWire none).Ends
        [⟨.access .readRegistry, .ok (registryWire " wire")⟩,
          ⟨.host (.execute (.passthrough "wire" "call-1")), .ok (.value .none)⟩]
        (.ok { toolResult := .none }) := by
      refine ends_readRegistry.mpr ?_
      rw [hpasses, hname, hid]
      exact .answered (.ret _)
    refine returns_bind.mpr ⟨(), [], _, rfl, hrequired, ?_⟩
    exact .answered (returns_tryFinally.mpr
      ⟨_, [⟨.access .endInFlight, .ok ()⟩], rfl, hexecutes, ends_call.mpr rfl⟩)

end PaybondKit.Agent
