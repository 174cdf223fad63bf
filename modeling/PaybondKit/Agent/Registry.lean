import PaybondKit.Agent.Types

/-!
# The tool registry

Side-effecting tools are registered under their names with the operation Harbor
knows them by. A tool that is not registered passes through, unless default deny
is on and the bound intent names it.
-/

namespace PaybondKit.Agent

open Policy

structure CompletionPreset where
  presetId : String
  kind : String
  deriving DecidableEq, Repr

/-- The completion catalog, as far as registries and validation read it. -/
structure CompletionCatalog where
  presets : List CompletionPreset

namespace CompletionCatalog

def listCompletionPresetIds (catalog : CompletionCatalog) : List String :=
  catalog.presets.map (·.presetId)

/-- `get_completion_preset`, which raises `ValueError` for an unknown id. -/
def getCompletionPreset (catalog : CompletionCatalog) (presetId : String) :
    Option CompletionPreset :=
  catalog.presets.find? (·.presetId = presetId)

end CompletionCatalog

def isVendorPack (preset : CompletionPreset) : Bool := preset.kind = "vendor_pack"

structure PaybondToolRegistry where
  defaultDeny : Bool
  sideEffecting : OrderedDict String PaybondSideEffectingToolEntry

/-- One round of `_normalize_side_effecting`; `operations` maps the operations met
so far to their tools. -/
def normalizeEntry (catalog : CompletionCatalog) (operations : OrderedDict String String)
    (toolName : String) (policy : PaybondSideEffectingToolPolicy) :
    Except PyExc PaybondSideEffectingToolEntry := do
  if pyStrip toolName = "" then
    throw (.toolRegistryValidation "side-effecting tool name must be non-empty")
  let evidencePreset := pyStrip (policy.evidencePreset.getD "")
  if evidencePreset = "" then
    throw (.toolRegistryValidation
      s!"side-effecting tool \"{toolName}\" must declare evidence_preset")
  if (catalog.getCompletionPreset evidencePreset).isNone then
    throw (.toolRegistryValidation
      (s!"side-effecting tool \"{toolName}\" references unknown evidence_preset " ++
        s!"\"{evidencePreset}\""))
  let operation := pyStrip (policy.operation.getD toolName)
  if operation = "" then
    throw (.toolRegistryValidation
      s!"side-effecting tool \"{toolName}\" must resolve to a non-empty operation")
  match operations.get? operation with
  | some previousTool =>
      if previousTool ≠ toolName then
        throw (.toolRegistryValidation
          (s!"duplicate side-effecting operation \"{operation}\" for tools " ++
            s!"\"{previousTool}\" and \"{toolName}\""))
  | none => pure ()
  return { toolName, operation, evidencePreset
           spendCents := policy.spendCents
           evidenceMapper := policy.evidenceMapper
           externalAttestationMapper := policy.externalAttestationMapper }

/-- The two dictionaries that `_normalize_side_effecting` fills. -/
structure Normalized where
  entries : OrderedDict String PaybondSideEffectingToolEntry := .empty
  operations : OrderedDict String String := .empty

def normalizeStep (catalog : CompletionCatalog) (normalized : Normalized)
    (item : String × PaybondSideEffectingToolPolicy) : Except PyExc Normalized := do
  let entry ← normalizeEntry catalog normalized.operations item.1 item.2
  return { entries := normalized.entries.set item.1 entry
           operations := normalized.operations.set entry.operation item.1 }

/-- `_normalize_side_effecting`. -/
def normalizeSideEffecting (catalog : CompletionCatalog)
    (sideEffecting : OrderedDict String PaybondSideEffectingToolPolicy) :
    Except PyExc (OrderedDict String PaybondSideEffectingToolEntry) :=
  (·.entries) <$> sideEffecting.items.foldlM (normalizeStep catalog) {}

def createPaybondToolRegistry (catalog : CompletionCatalog)
    (config : PaybondToolRegistryConfig) : Except PyExc PaybondToolRegistry := do
  let sideEffecting ← normalizeSideEffecting catalog config.sideEffecting
  return { defaultDeny := config.defaultDeny, sideEffecting }

namespace PaybondToolRegistry

variable (registry : PaybondToolRegistry) (toolName : String)

def isSideEffecting : Bool := registry.sideEffecting.contains toolName

def resolveOperation : String :=
  match registry.sideEffecting.get? toolName with
  | some entry => entry.operation
  | none => toolName

def operations : List String := registry.sideEffecting.values.map (·.operation)

def resolveTool (allowedTools : Option (List String)) : PaybondToolResolution :=
  match registry.sideEffecting.get? toolName with
  | some entry => .sideEffecting toolName entry.operation entry
  | none =>
      let operation := registry.resolveOperation toolName
      if registry.defaultDeny && (allowedTools.elim false (operation ∈ ·)) then
        .denied toolName operation
      else .passthrough toolName

def validateForBind (allowedTools : List String) : Except PyExc Unit :=
  if registry.defaultDeny then
    match allowedTools.find? (· ∉ registry.operations) with
    | some operation =>
        .error (.toolRegistryValidation
          (s!"defaultDeny: operation \"{operation}\" is in intent allowedTools " ++
            "but not registered as side-effecting"))
    | none => .ok ()
  else .ok ()

end PaybondToolRegistry

/-! ## Spend rules -/

/-- `resolve_json_path`. -/
def resolveJsonPath (args : PyValue) (path : String) : PyValue :=
  (splitDots path).foldl PyValue.getItem args

def resolveSpendCentsFromJsonPath (args : PyValue) (path toolName : String) :
    Except PyExc (Option Int) :=
  let failure : PyExc := .policyValidation
    { message := s!"tool \"{toolName}\" spend_from_args path \"{path}\" " ++
        "must resolve to a non-negative integer" }
  match resolveJsonPath args path with
  | .none => .ok none
  | .int value => if value < 0 then .error failure else .ok (some value)
  | _ => .error failure

/-! ## What a registry resolves -/

namespace PaybondToolRegistry

variable {registry : PaybondToolRegistry} {toolName : String}

theorem resolveTool_sideEffecting {allowedTools : Option (List String)}
    {entry : PaybondSideEffectingToolEntry}
    (hentry : registry.sideEffecting.get? toolName = some entry) :
    registry.resolveTool toolName allowedTools =
      .sideEffecting toolName entry.operation entry := by
  simp [resolveTool, hentry]

theorem resolveTool_eq_sideEffecting {allowedTools : Option (List String)}
    {name operation : String} {entry : PaybondSideEffectingToolEntry}
    (hresolution : registry.resolveTool toolName allowedTools =
      .sideEffecting name operation entry) :
    name = toolName ∧ registry.sideEffecting.get? toolName = some entry := by
  cases hentry : registry.sideEffecting.get? toolName with
  | some found =>
      rw [resolveTool_sideEffecting hentry] at hresolution
      cases hresolution
      exact ⟨rfl, rfl⟩
  | none =>
      simp only [resolveTool, hentry] at hresolution
      split at hresolution <;> cases hresolution

/-- What passes through is the tool that was looked up. -/
theorem resolveTool_passthrough {allowedTools : Option (List String)} {name : String}
    (hresolution : registry.resolveTool toolName allowedTools = .passthrough name) :
    registry.resolveTool toolName allowedTools = .passthrough toolName := by
  have hname : name = toolName := by
    unfold resolveTool at hresolution
    split at hresolution
    · cases hresolution
    · dsimp only at hresolution
      split at hresolution
      · cases hresolution
      · cases hresolution
        rfl
  rwa [hname] at hresolution

theorem resolveTool_unregistered {allowedTools : List String}
    (hnone : registry.sideEffecting.get? toolName = none) :
    registry.resolveTool toolName (some allowedTools) =
      if registry.defaultDeny = true ∧ toolName ∈ allowedTools then .denied toolName toolName
      else .passthrough toolName := by
  simp [resolveTool, hnone, resolveOperation]

end PaybondToolRegistry

end PaybondKit.Agent
