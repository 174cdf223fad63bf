import PaybondKit.Policy.Registry

/-!
# Registry files

A registry document is checked twice: by its validator, which collects issues, and by the
constructor of the registry, which raises. The constructor strips the names of tools and their
operations where the validator does not, and the validator passes over a version that is no
integer. Apart from that they agree.
-/

namespace PaybondKit.Agent

open Policy (normalizeEntry_registers createPaybondToolRegistry_error)

/-- A registry document, or one of its tool entries. -/
abbrev RegistryMapping := OrderedDict String PyValue

/-! ## Reading a document -/

section Reading

/-- `_is_side_effecting`. -/
def isSideEffectingEntry (entry : RegistryMapping) : Bool :=
  match (entry.get? "side_effecting").or (entry.get? "sideEffecting") with
  | some (.bool false) => false
  | _ => true

/-- `_evidence_preset`. -/
def evidencePreset (entry : RegistryMapping) : Option String :=
  match (entry.get? "evidence_preset").or (entry.get? "evidencePreset") with
  | some (.str raw) => truthyStr (some (pyStrip raw))
  | _ => none

/-- `str(entry.get("operation", "")).strip()`. -/
def entryOperation (pyStr : PyValue → String) (entry : RegistryMapping) : String :=
  pyStrip ((entry.get? "operation").elim "" pyStr)

def defaultDenyOf (doc : RegistryMapping) : Bool :=
  (((doc.get? "default_deny").or (doc.get? "defaultDeny")).getD (.bool false)).truthy

/-- `doc.get("tools") or {}`, of which the items are read. -/
def toolsOf (doc : RegistryMapping) : Except PyExc RegistryMapping :=
  match ((doc.get? "tools").getD .none).truthy? with
  | none => .ok .empty
  | some (.dict tools) => .ok (.ofList tools)
  | some _ => .error (.other "AttributeError" "items")

/-- `int(version_raw) if isinstance(version_raw, int) else None`. -/
def versionOf (doc : RegistryMapping) : Option ℤ :=
  match doc.get? "version" with
  | some (.int version) => some version
  | some (.bool version) => some (if version then 1 else 0)
  | _ => none

end Reading

/-! ## The configuration -/

section Configuration

variable (pyStr : PyValue → String)

/-- One round of the loop over the tools. -/
def configStep (sideEffecting : OrderedDict String PaybondSideEffectingToolPolicy)
    (item : String × PyValue) : Except PyExc (OrderedDict String PaybondSideEffectingToolPolicy) :=
  let toolName := item.1
  match item.2 with
  | .dict fields =>
      let entry := OrderedDict.ofList fields
      if !isSideEffectingEntry entry then .ok sideEffecting
      else
        match evidencePreset entry with
        | none => .error (.toolRegistryValidation
            s!"side-effecting tool \"{toolName}\" must declare evidence_preset")
        | some preset =>
            let policy : PaybondSideEffectingToolPolicy :=
              { evidencePreset := some preset
                operation := truthyStr (some (entryOperation pyStr entry)) }
            .ok (sideEffecting.set toolName policy)
  | _ => .ok sideEffecting

def agentRegistryDocumentToConfig (doc : RegistryMapping) :
    Except PyExc PaybondToolRegistryConfig := do
  let tools ← toolsOf doc
  let sideEffecting ← tools.items.foldlM (configStep pyStr) .empty
  return { defaultDeny := defaultDenyOf doc, sideEffecting }

/-- `create_paybond_tool_registry(agent_registry_document_to_config(doc))`. -/
def constructRegistry (catalog : CompletionCatalog) (doc : RegistryMapping) :
    Except PyExc PaybondToolRegistry := do
  createPaybondToolRegistry catalog (← agentRegistryDocumentToConfig pyStr doc)

end Configuration

/-! ## The validator -/

section Validator

structure AgentRegistryValidationIssue where
  code : String
  message : String
  tool : Option String := none
  deriving DecidableEq, Repr

structure AgentRegistryValidationResult where
  ok : Bool
  version : Option ℤ
  defaultDeny : Bool
  toolCount : ℕ
  sideEffectingCount : ℕ
  issues : List AgentRegistryValidationIssue
  registry : Option PaybondToolRegistry

/-- What the loop over the tools keeps; `operations` maps the operations met so far to tools. -/
structure RegistryCheck where
  issues : List AgentRegistryValidationIssue := []
  operations : OrderedDict String String := .empty
  sideEffectingCount : ℕ := 0

def RegistryCheck.report (check : RegistryCheck) (code message tool : String) : RegistryCheck :=
  { check with issues := check.issues ++ [⟨code, message, some tool⟩] }

def documentedCode : String := "registry.default_deny_documented"

/-- The issues that are found before the tools are read. -/
def documentIssues (doc : RegistryMapping) : List AgentRegistryValidationIssue :=
  let version : List AgentRegistryValidationIssue :=
    match versionOf doc with
    | some version =>
        if version ≠ 1 then
          [⟨"registry.unsupported_version",
            s!"unsupported registry version {version}; expected 1", none⟩]
        else []
    | none => []
  let defaultDeny : List AgentRegistryValidationIssue :=
    if defaultDenyOf doc then
      [⟨documentedCode, "default_deny is enabled: every intent allowed operation must be " ++
        "registered as side-effecting", none⟩]
    else []
  version ++ defaultDeny

variable (catalog : CompletionCatalog) (pyStr : PyValue → String)

/-- `str(entry.get("operation", "")).strip() or tool_name`. -/
def validatedOperation (tool : String × RegistryMapping) : String :=
  (truthyStr (some (entryOperation pyStr tool.2))).getD tool.1

/-- One round of the loop over the tools. -/
def checkTool (check : RegistryCheck) (item : String × PyValue) : RegistryCheck :=
  let toolName := item.1
  match item.2 with
  | .dict fields =>
      let entry := OrderedDict.ofList fields
      if !isSideEffectingEntry entry then check
      else
        let check := { check with sideEffectingCount := check.sideEffectingCount + 1 }
        match evidencePreset entry with
        | none => check.report "registry.missing_evidence_preset"
            s!"side-effecting tool \"{toolName}\" must declare evidence_preset" toolName
        | some preset =>
            let check :=
              if (catalog.getCompletionPreset preset).isNone then
                check.report "registry.unknown_evidence_preset"
                  (s!"tool \"{toolName}\" references unknown evidence_preset \"{preset}\" " ++
                    "(catalog: " ++ ", ".intercalate catalog.listCompletionPresetIds ++ ")")
                  toolName
              else check
            let operation := validatedOperation pyStr (toolName, entry)
            match (check.operations.get? operation).filter (· ≠ toolName) with
            | some previous => check.report "registry.duplicate_operation"
                (s!"duplicate operation \"{operation}\" for tools \"{previous}\" and " ++
                  s!"\"{toolName}\"") toolName
            | none => { check with operations := check.operations.set operation toolName }
  | _ => check.report "registry.invalid_tool_entry" s!"tool \"{toolName}\" must be an object" toolName

def validateAgentRegistryDocument (doc : RegistryMapping) :
    Except PyExc AgentRegistryValidationResult := do
  let tools ← toolsOf doc
  let check := tools.items.foldl (checkTool catalog pyStr) { issues := documentIssues doc }
  let blocking := check.issues.filter (·.code ≠ documentedCode)
  let (issues, registry) ←
    if blocking = [] then
      match constructRegistry pyStr catalog doc with
      | .ok registry => pure (check.issues, some registry)
      | .error (.toolRegistryValidation message) =>
          pure (check.issues ++ [{ code := "registry.invalid_config", message }], none)
      | .error exception => throw exception
    else pure (check.issues, none)
  return { ok := blocking.length = 0, version := versionOf doc, defaultDeny := defaultDenyOf doc
           toolCount := tools.items.length, sideEffectingCount := check.sideEffectingCount
           issues, registry }

end Validator

/-! ## Operations and the tools that take them -/

section Operations

/-- No other tool has the operation. -/
def FreeFor (operations : OrderedDict String String) (toolName operation : String) : Prop :=
  ∀ previous, operations.get? operation = some previous → previous = toolName

/-- Tools take operations one after the other, and none takes one that another tool has. -/
def TakesFree (operations : OrderedDict String String) : List (String × String) → Prop
  | [] => True
  | (toolName, operation) :: rest =>
      FreeFor operations toolName operation ∧
        TakesFree (operations.set operation toolName) rest

/-- No two tools have the same operation. -/
def Unambiguous (tools : List (String × String)) : Prop :=
  ∀ first ∈ tools, ∀ second ∈ tools, first.2 = second.2 → first.1 = second.1

theorem takesFree_iff {operations : OrderedDict String String} {tools : List (String × String)} :
    TakesFree operations tools ↔
      (∀ tool ∈ tools, FreeFor operations tool.1 tool.2) ∧ Unambiguous tools := by
  induction tools generalizing operations with
  | nil => simp [TakesFree, Unambiguous]
  | cons tool rest ih =>
      obtain ⟨toolName, operation⟩ := tool
      have hset : ∀ other : String × String,
          FreeFor (operations.set operation toolName) other.1 other.2 ↔
            if other.2 = operation then toolName = other.1
            else FreeFor operations other.1 other.2 := by
        intro other
        unfold FreeFor
        rw [OrderedDict.get?_set]
        split <;> simp
      rw [TakesFree, ih]
      simp only [hset]
      constructor
      · rintro ⟨hfree, hrest, hunambiguous⟩
        refine ⟨fun other hother => ?_, fun first hfirst second hsecond hsame => ?_⟩
        · rcases List.mem_cons.mp hother with rfl | hother
          · exact hfree
          · have hother := hrest other hother
            split at hother
            next hsame =>
              intro previous hprevious
              rw [hsame] at hprevious
              exact (hfree previous hprevious).trans hother
            next => exact hother
        · rcases List.mem_cons.mp hfirst with rfl | hfirst <;>
            rcases List.mem_cons.mp hsecond with rfl | hsecond
          · rfl
          · have hother := hrest second hsecond
            rwa [if_pos hsame.symm] at hother
          · have hother := hrest first hfirst
            rw [if_pos hsame] at hother
            exact hother.symm
          · exact hunambiguous first hfirst second hsecond hsame
      · rintro ⟨hfree, hunambiguous⟩
        have hmem : (toolName, operation) ∈ (toolName, operation) :: rest := List.mem_cons_self
        refine ⟨hfree _ hmem, fun other hother => ?_, fun first hfirst second hsecond => ?_⟩
        · split
          next hsame =>
            exact hunambiguous _ hmem other (List.mem_cons_of_mem _ hother) hsame.symm
          next => exact hfree other (List.mem_cons_of_mem _ hother)
        · exact hunambiguous first (List.mem_cons_of_mem _ hfirst) second
            (List.mem_cons_of_mem _ hsecond)

theorem takesFree_empty_iff {tools : List (String × String)} :
    TakesFree .empty tools ↔ Unambiguous tools := by
  simp [takesFree_iff, FreeFor]

end Operations

/-! ## The side-effecting tools of a document -/

section Tools

variable {pyStr : PyValue → String} {catalog : CompletionCatalog}

def sideEffecting? (item : String × PyValue) : Option (String × RegistryMapping) :=
  match item.2 with
  | .dict fields =>
      let entry := OrderedDict.ofList fields
      if isSideEffectingEntry entry then some (item.1, entry) else none
  | _ => none

def IsObject (item : String × PyValue) : Prop := ∃ fields, item.2 = .dict fields

/-- The preset of the tool is declared and in the catalog. -/
def PresetKnown (catalog : CompletionCatalog) (tool : String × RegistryMapping) : Prop :=
  ∃ preset, evidencePreset tool.2 = some preset ∧ (catalog.getCompletionPreset preset).isSome = true

/-- The policy that the constructor is given for a tool. -/
def registryPolicy (pyStr : PyValue → String) (tool : String × RegistryMapping) :
    PaybondSideEffectingToolPolicy where
  evidencePreset := evidencePreset tool.2
  operation := truthyStr (some (entryOperation pyStr tool.2))

/-- The operation that the constructor registers for a tool. -/
def constructedOperation (pyStr : PyValue → String) (tool : String × RegistryMapping) : String :=
  pyStrip (validatedOperation pyStr tool)

theorem item_cases (item : String × PyValue) :
    (¬IsObject item ∧ sideEffecting? item = none) ∨
      (IsObject item ∧ ∃ fields, item.2 = .dict fields ∧
        isSideEffectingEntry (.ofList fields) = false ∧ sideEffecting? item = none) ∨
      (IsObject item ∧ ∃ fields, item.2 = .dict fields ∧
        isSideEffectingEntry (.ofList fields) = true ∧
          sideEffecting? item = some (item.1, .ofList fields)) := by
  obtain ⟨name, value⟩ := item
  cases value with
  | dict fields =>
      cases hside : isSideEffectingEntry (.ofList fields) with
      | false => exact .inr (.inl ⟨⟨fields, rfl⟩, fields, rfl, hside, by simp [sideEffecting?, hside]⟩)
      | true => exact .inr (.inr ⟨⟨fields, rfl⟩, fields, rfl, hside, by simp [sideEffecting?, hside]⟩)
  | _ => exact .inl ⟨fun ⟨_, h⟩ => (nomatch h), rfl⟩

/-- One round of the constructor's side: a tool without a preset is refused. -/
theorem configStep_eq {policies : OrderedDict String PaybondSideEffectingToolPolicy}
    {item : String × PyValue} :
    (sideEffecting? item = none ∧ configStep pyStr policies item = .ok policies) ∨
      (∃ tool, sideEffecting? item = some tool ∧ tool.1 = item.1 ∧
        ((evidencePreset tool.2 = none ∧
            ∃ message, configStep pyStr policies item = .error (.toolRegistryValidation message)) ∨
          ((evidencePreset tool.2).isSome = true ∧
            configStep pyStr policies item =
              .ok (policies.set tool.1 (registryPolicy pyStr tool))))) := by
  rcases item_cases item with ⟨hobject, hnone⟩ | ⟨-, fields, hvalue, hside, hnone⟩ |
    ⟨-, fields, hvalue, hside, hsome⟩
  · refine .inl ⟨hnone, ?_⟩
    unfold configStep
    dsimp only
    split
    next fields hvalue => exact absurd ⟨fields, hvalue⟩ hobject
    next => rfl
  · refine .inl ⟨hnone, ?_⟩
    simp [configStep, hvalue, hside]
  · refine .inr ⟨_, hsome, rfl, ?_⟩
    cases hpreset : evidencePreset (OrderedDict.ofList fields) with
    | none =>
        refine .inl ⟨rfl, "side-effecting tool \"" ++ item.1 ++ "\" must declare evidence_preset", ?_⟩
        simp only [configStep, hvalue, hside, hpreset]
        rfl
    | some preset => exact .inr ⟨rfl, by simp [configStep, hvalue, hside, hpreset, registryPolicy]⟩

theorem configLoop_error {items : List (String × PyValue)}
    {policies : OrderedDict String PaybondSideEffectingToolPolicy} {exception : PyExc}
    (hloop : items.foldlM (configStep pyStr) policies = .error exception) :
    ∃ message, exception = .toolRegistryValidation message := by
  induction items generalizing policies with
  | nil => cases hloop
  | cons item rest ih =>
      rw [List.foldlM_cons] at hloop
      rcases @configStep_eq pyStr policies item with ⟨-, hstep⟩ |
        ⟨tool, -, -, ⟨-, message, hstep⟩ | ⟨-, hstep⟩⟩
      · rw [hstep] at hloop
        exact ih hloop
      · rw [hstep] at hloop
        cases hloop
        exact ⟨message, rfl⟩
      · rw [hstep] at hloop
        exact ih hloop

/-- The loop succeeds when every side-effecting tool declares a preset, and then keeps one policy
for each of them. -/
theorem configLoop_iff {items : List (String × PyValue)}
    {policies result : OrderedDict String PaybondSideEffectingToolPolicy}
    (hnodup : (policies.items.map Prod.fst ++ items.map Prod.fst).Nodup) :
    items.foldlM (configStep pyStr) policies = .ok result ↔
      (∀ tool ∈ items.filterMap sideEffecting?, (evidencePreset tool.2).isSome = true) ∧
        result.items = policies.items ++
          (items.filterMap sideEffecting?).map fun tool => (tool.1, registryPolicy pyStr tool) := by
  induction items generalizing policies with
  | nil =>
      constructor
      · intro hloop
        cases hloop
        simp
      · rintro ⟨-, hitems⟩
        have hsame : result = policies := OrderedDict.ext (by simpa using hitems)
        rw [hsame]
        rfl
  | cons item rest ih =>
      have hrest : (policies.items.map Prod.fst ++ rest.map Prod.fst).Nodup := by
        rw [List.map_cons, List.nodup_middle] at hnodup
        exact (List.nodup_cons.mp hnodup).2
      rw [List.foldlM_cons]
      rcases @configStep_eq pyStr policies item with ⟨hnone, hstep⟩ |
        ⟨tool, hsome, hname, ⟨hpreset, message, hstep⟩ | ⟨hpreset, hstep⟩⟩
      · rw [hstep, List.filterMap_cons_none hnone]
        exact ih hrest
      · rw [hstep, List.filterMap_cons_some hsome]
        refine iff_of_false (fun h => nomatch h) ?_
        rintro ⟨hall, -⟩
        have hall := hall tool List.mem_cons_self
        rw [hpreset] at hall
        cases hall
      · have hfresh : tool.1 ∉ policies.items.map Prod.fst := by
          rw [List.map_cons, List.nodup_middle, ← hname] at hnodup
          exact fun hmem => (List.nodup_cons.mp hnodup).1 (List.mem_append_left _ hmem)
        have hset : (policies.set tool.1 (registryPolicy pyStr tool)).items =
            policies.items ++ [(tool.1, registryPolicy pyStr tool)] := by
          have hkeys : tool.1 ∉ policies.keys := hfresh
          simp [OrderedDict.set, hkeys]
        rw [hstep, List.filterMap_cons_some hsome, List.forall_mem_cons]
        refine (ih ?_).trans ?_
        · rw [hset, List.map_append, List.map_cons, List.map_nil, List.append_assoc, hname]
          exact hnodup
        · rw [hset, List.map_cons, List.append_assoc, List.singleton_append]
          simp [hpreset]

end Tools

/-! ## What the constructor accepts -/

section Construct

variable {pyStr : PyValue → String} {catalog : CompletionCatalog} {doc tools : RegistryMapping}

/-- The operation under which a policy is registered. -/
def policyOperation (item : String × PaybondSideEffectingToolPolicy) : String :=
  pyStrip (item.2.operation.getD item.1)

/-- The constructor has nothing against the policy by itself. -/
structure Fits (catalog : CompletionCatalog) (item : String × PaybondSideEffectingToolPolicy) :
    Prop where
  name : pyStrip item.1 ≠ ""
  declared : pyStrip (item.2.evidencePreset.getD "") ≠ ""
  known : (catalog.getCompletionPreset (pyStrip (item.2.evidencePreset.getD ""))).isSome = true
  operation : policyOperation item ≠ ""

theorem normalizeEntry_ok_iff {operations : OrderedDict String String}
    {item : String × PaybondSideEffectingToolPolicy} :
    (∃ entry, normalizeEntry catalog operations item.1 item.2 = .ok entry) ↔
      Fits catalog item ∧ FreeFor operations item.1 (policyOperation item) := by
  unfold normalizeEntry
  constructor
  · rintro ⟨entry, hentry⟩
    split at hentry
    · cases hentry
    next hname =>
    dsimp only at hentry
    split at hentry
    · cases hentry
    next hdeclared =>
    split at hentry
    · cases hentry
    next hknown =>
    split at hentry
    · cases hentry
    next hoperation =>
    refine ⟨⟨hname, hdeclared, ?_, hoperation⟩, fun previous hprevious => ?_⟩
    · simpa [Option.isSome_iff_ne_none] using hknown
    · change operations.get? (pyStrip (item.2.operation.getD item.1)) = some previous at hprevious
      rw [hprevious] at hentry
      dsimp only at hentry
      split at hentry
      · cases hentry
      next hsame => exact not_not.mp hsame
  · rintro ⟨⟨hname, hdeclared, hknown, hoperation⟩, hfree⟩
    change pyStrip (item.2.operation.getD item.1) ≠ "" at hoperation
    have hknown : ¬(catalog.getCompletionPreset
        (pyStrip (item.2.evidencePreset.getD ""))).isNone = true := by
      simpa [Option.isSome_iff_ne_none] using hknown
    dsimp only
    rw [if_neg hname, if_neg hdeclared, if_neg hknown, if_neg hoperation]
    cases hprevious : operations.get? (pyStrip (item.2.operation.getD item.1)) with
    | none => exact ⟨_, rfl⟩
    | some previous =>
        have hsame : ¬previous ≠ item.1 := not_not.mpr (hfree previous hprevious)
        dsimp only
        rw [if_neg hsame]
        exact ⟨_, rfl⟩

theorem normalizeLoop_iff {items : List (String × PaybondSideEffectingToolPolicy)}
    {init : Normalized} :
    (∃ normalized, items.foldlM (normalizeStep catalog) init = .ok normalized) ↔
      (∀ item ∈ items, Fits catalog item) ∧
        TakesFree init.operations (items.map fun item => (item.1, policyOperation item)) := by
  induction items generalizing init with
  | nil => simp [TakesFree, except_pure_eq_ok, List.foldlM_nil]
  | cons item rest ih =>
      rw [List.foldlM_cons, List.forall_mem_cons, List.map_cons, TakesFree]
      constructor
      · rintro ⟨normalized, hloop⟩
        obtain ⟨next, hnext, hloop⟩ := except_bind_eq_ok.mp hloop
        obtain ⟨hrest, hfree⟩ := ih.mp ⟨normalized, hloop⟩
        simp only [normalizeStep, except_bind_eq_ok, except_pure_eq_ok] at hnext
        obtain ⟨entry, hentry, rfl⟩ := hnext
        obtain ⟨hfits, htaken⟩ := normalizeEntry_ok_iff.mp ⟨entry, hentry⟩
        rw [(normalizeEntry_registers hentry).1.operation] at hfree
        exact ⟨⟨hfits, hrest⟩, htaken, hfree⟩
      · rintro ⟨⟨hfits, hrest⟩, htaken, hfree⟩
        obtain ⟨entry, hentry⟩ := normalizeEntry_ok_iff.mpr ⟨hfits, htaken⟩
        have hoperation : entry.operation = policyOperation item :=
          (normalizeEntry_registers hentry).1.operation
        have hstep : normalizeStep catalog init item = .ok
            { entries := init.entries.set item.1 entry
              operations := init.operations.set (policyOperation item) item.1 } := by
          rw [normalizeStep, hentry, ← hoperation]
          rfl
        rw [hstep]
        exact ih.mpr ⟨hrest, hfree⟩

theorem evidencePreset_stripped {entry : RegistryMapping} {preset : String}
    (hpreset : evidencePreset entry = some preset) : preset ≠ "" ∧ pyStrip preset = preset := by
  unfold evidencePreset at hpreset
  split at hpreset
  · obtain ⟨hsome, hne⟩ := Option.filter_eq_some_iff.mp hpreset
    obtain rfl := Option.some.inj hsome
    exact ⟨of_decide_eq_true hne, pyStrip_pyStrip _⟩
  · cases hpreset

theorem constructedOperation_ne {tool : String × RegistryMapping} (hname : pyStrip tool.1 ≠ "") :
    constructedOperation pyStr tool ≠ "" := by
  unfold constructedOperation validatedOperation
  by_cases hoperation : entryOperation pyStr tool.2 = ""
  · have hnone : truthyStr (some (entryOperation pyStr tool.2)) = none := by
      simp [truthyStr, hoperation]
    rwa [hnone]
  · rw [truthyStr_eq_some hoperation, Option.getD_some, entryOperation, pyStrip_pyStrip]
    exact hoperation

theorem policyOperation_registryPolicy (tool : String × RegistryMapping) :
    policyOperation (tool.1, registryPolicy pyStr tool) = constructedOperation pyStr tool := by
  rw [policyOperation, constructedOperation, validatedOperation, registryPolicy]

theorem fits_registryPolicy_iff {tool : String × RegistryMapping} :
    Fits catalog (tool.1, registryPolicy pyStr tool) ↔
      PresetKnown catalog tool ∧ pyStrip tool.1 ≠ "" := by
  constructor
  · rintro ⟨hname, hdeclared, hknown, -⟩
    refine ⟨?_, hname⟩
    change pyStrip ((evidencePreset tool.2).getD "") ≠ "" at hdeclared
    change (catalog.getCompletionPreset (pyStrip ((evidencePreset tool.2).getD ""))).isSome = true
      at hknown
    cases hpreset : evidencePreset tool.2 with
    | none =>
        rw [hpreset] at hdeclared
        exact absurd (by decide) hdeclared
    | some preset =>
        rw [hpreset, Option.getD_some, (evidencePreset_stripped hpreset).2] at hknown
        exact ⟨preset, hpreset, hknown⟩
  · rintro ⟨⟨preset, hpreset, hknown⟩, hname⟩
    obtain ⟨hne, hstripped⟩ := evidencePreset_stripped hpreset
    have hgetD : pyStrip ((registryPolicy pyStr tool).evidencePreset.getD "") = preset := by
      simp [registryPolicy, hpreset, hstripped]
    refine ⟨hname, by rwa [hgetD], by rwa [hgetD], ?_⟩
    rw [policyOperation_registryPolicy]
    exact constructedOperation_ne hname

theorem sideEffecting?_name {item : String × PyValue} {tool : String × RegistryMapping}
    (htool : sideEffecting? item = some tool) : tool.1 = item.1 := by
  unfold sideEffecting? at htool
  split at htool
  · dsimp only at htool
    split at htool
    · cases htool
      rfl
    · cases htool
  · cases htool

theorem names_sublist (items : List (String × PyValue)) :
    ((items.filterMap sideEffecting?).map Prod.fst).Sublist (items.map Prod.fst) := by
  induction items with
  | nil => exact .slnil
  | cons item rest ih =>
      cases htool : sideEffecting? item with
      | none =>
          rw [List.filterMap_cons_none htool]
          exact ih.cons _
      | some tool =>
          rw [List.filterMap_cons_some htool, List.map_cons, List.map_cons,
            sideEffecting?_name htool]
          exact ih.cons_cons _

/-- The policies that the constructor is given when every tool declares a preset. -/
def registryPolicies (pyStr : PyValue → String) (tools : RegistryMapping) :
    OrderedDict String PaybondSideEffectingToolPolicy where
  items := (tools.items.filterMap sideEffecting?).map fun tool => (tool.1, registryPolicy pyStr tool)
  nodup := by
    rw [List.map_map]
    exact tools.nodup.sublist (names_sublist tools.items)

theorem configLoop_tools_iff {policies : OrderedDict String PaybondSideEffectingToolPolicy} :
    tools.items.foldlM (configStep pyStr) .empty = .ok policies ↔
      (∀ tool ∈ tools.items.filterMap sideEffecting?, (evidencePreset tool.2).isSome = true) ∧
        policies = registryPolicies pyStr tools := by
  rw [configLoop_iff (by exact tools.nodup), OrderedDict.ext_iff]
  rfl

theorem createPaybondToolRegistry_ok_iff {config : PaybondToolRegistryConfig} :
    (∃ registry, createPaybondToolRegistry catalog config = .ok registry) ↔
      ∃ normalized, config.sideEffecting.items.foldlM (normalizeStep catalog) {} =
        .ok normalized := by
  constructor
  · rintro ⟨registry, hregistry⟩
    obtain ⟨entries, hentries, -⟩ := except_bind_eq_ok.mp hregistry
    obtain ⟨normalized, hloop, -⟩ := except_map_eq_ok.mp hentries
    exact ⟨normalized, hloop⟩
  · rintro ⟨normalized, hloop⟩
    refine ⟨_, except_bind_eq_ok.mpr ⟨normalized.entries, ?_, rfl⟩⟩
    exact except_map_eq_ok.mpr ⟨normalized, hloop, rfl⟩

/-- The constructor succeeds when the presets are known, the names are not blank and the stripped
operations differ. -/
theorem constructRegistry_ok_iff (htools : toolsOf doc = .ok tools) :
    (∃ registry, constructRegistry pyStr catalog doc = .ok registry) ↔
      (∀ tool ∈ tools.items.filterMap sideEffecting?,
        PresetKnown catalog tool ∧ pyStrip tool.1 ≠ "") ∧
        Unambiguous ((tools.items.filterMap sideEffecting?).map fun tool =>
          (tool.1, constructedOperation pyStr tool)) := by
  have hcreate : (∃ normalized, (registryPolicies pyStr tools).items.foldlM (normalizeStep catalog)
      {} = .ok normalized) ↔
        (∀ tool ∈ tools.items.filterMap sideEffecting?,
          PresetKnown catalog tool ∧ pyStrip tool.1 ≠ "") ∧
          Unambiguous ((tools.items.filterMap sideEffecting?).map fun tool =>
            (tool.1, constructedOperation pyStr tool)) := by
    rw [normalizeLoop_iff, takesFree_empty_iff, registryPolicies, List.forall_mem_map, List.map_map]
    simp only [fits_registryPolicy_iff, Function.comp_def, policyOperation_registryPolicy]
  rw [← hcreate]
  constructor
  · rintro ⟨registry, hregistry⟩
    obtain ⟨config, hconfig, hregistry⟩ := except_bind_eq_ok.mp hregistry
    obtain ⟨found, hfound, hconfig⟩ := except_bind_eq_ok.mp hconfig
    obtain rfl := Except.ok.inj (htools.symm.trans hfound)
    obtain ⟨policies, hpolicies, hconfig⟩ := except_bind_eq_ok.mp hconfig
    obtain rfl := except_pure_eq_ok.mp hconfig
    obtain ⟨-, rfl⟩ := configLoop_tools_iff.mp hpolicies
    exact createPaybondToolRegistry_ok_iff.mp ⟨registry, hregistry⟩
  · intro hnormalized
    have hdeclared : ∀ tool ∈ tools.items.filterMap sideEffecting?,
        (evidencePreset tool.2).isSome = true := by
      intro tool htool
      obtain ⟨⟨preset, hpreset, -⟩, -⟩ := (hcreate.mp hnormalized).1 tool htool
      rw [hpreset]
      rfl
    have hconfig : agentRegistryDocumentToConfig pyStr doc =
        .ok { defaultDeny := defaultDenyOf doc, sideEffecting := registryPolicies pyStr tools } :=
      except_bind_eq_ok.mpr ⟨tools, htools, except_bind_eq_ok.mpr
        ⟨_, configLoop_tools_iff.mpr ⟨hdeclared, rfl⟩, rfl⟩⟩
    obtain ⟨registry, hregistry⟩ := (@createPaybondToolRegistry_ok_iff catalog
      { defaultDeny := defaultDenyOf doc, sideEffecting := registryPolicies pyStr tools }).mpr
        hnormalized
    exact ⟨registry, except_bind_eq_ok.mpr ⟨_, hconfig, hregistry⟩⟩

/-- A configuration is only refused as one. -/
theorem constructRegistry_error {exception : PyExc} (htools : toolsOf doc = .ok tools)
    (hconstruct : constructRegistry pyStr catalog doc = .error exception) :
    ∃ message, exception = .toolRegistryValidation message := by
  cases hpolicies : tools.items.foldlM (configStep pyStr) .empty with
  | error failure =>
      have hconfig : agentRegistryDocumentToConfig pyStr doc = .error failure := by
        rw [agentRegistryDocumentToConfig, htools, except_ok_bind, hpolicies]
        rfl
      rw [constructRegistry, hconfig] at hconstruct
      cases hconstruct
      exact configLoop_error hpolicies
  | ok policies =>
      have hconfig : agentRegistryDocumentToConfig pyStr doc =
          .ok { defaultDeny := defaultDenyOf doc, sideEffecting := policies } := by
        rw [agentRegistryDocumentToConfig, htools, except_ok_bind, hpolicies]
        rfl
      rw [constructRegistry, hconfig] at hconstruct
      exact createPaybondToolRegistry_error hconstruct

end Construct

/-! ## What the validator finds -/

section Validate

variable {pyStr : PyValue → String} {catalog : CompletionCatalog} {doc tools : RegistryMapping}
variable {check : RegistryCheck} {item : String × PyValue}

/-- None of the issues keeps the document from being accepted. -/
def RegistryCheck.Clean (check : RegistryCheck) : Prop :=
  ∀ issue ∈ check.issues, issue.code = documentedCode

@[simp] theorem report_operations {code message tool : String} :
    (check.report code message tool).operations = check.operations := rfl

theorem not_clean_report {code message tool : String} (hcode : code ≠ documentedCode) :
    ¬(check.report code message tool).Clean := by
  intro hclean
  exact hcode (hclean ⟨code, message, some tool⟩ (by simp [RegistryCheck.report]))

/-- What one round asks of a tool. -/
def Passes (catalog : CompletionCatalog) (pyStr : PyValue → String)
    (operations : OrderedDict String String) (item : String × PyValue) : Prop :=
  IsObject item ∧ ∀ tool, sideEffecting? item = some tool →
    PresetKnown catalog tool ∧ FreeFor operations tool.1 (validatedOperation pyStr tool)

/-- A round that finds nothing notes the operation of a side-effecting tool. -/
theorem checkTool_cases :
    (¬(checkTool catalog pyStr check item).Clean ∧ ¬Passes catalog pyStr check.operations item) ∨
      (Passes catalog pyStr check.operations item ∧ sideEffecting? item = none ∧
        checkTool catalog pyStr check item = check) ∨
      (Passes catalog pyStr check.operations item ∧ ∃ tool, sideEffecting? item = some tool ∧
        checkTool catalog pyStr check item =
          { check with
            sideEffectingCount := check.sideEffectingCount + 1
            operations := check.operations.set (validatedOperation pyStr tool) tool.1 }) := by
  rcases item_cases item with ⟨hobject, -⟩ | ⟨hobject, fields, hvalue, hside, hnone⟩ |
    ⟨hobject, fields, hvalue, hside, hsome⟩
  · refine .inl ⟨?_, fun h => hobject h.1⟩
    unfold checkTool
    dsimp only
    split
    next fields hvalue => exact absurd ⟨fields, hvalue⟩ hobject
    next => exact not_clean_report (by decide)
  · refine .inr (.inl ⟨⟨hobject, fun tool htool => ?_⟩, hnone, ?_⟩)
    · rw [hnone] at htool
      cases htool
    · simp [checkTool, hvalue, hside]
  · have hpasses : Passes catalog pyStr check.operations item ↔
        PresetKnown catalog (item.1, .ofList fields) ∧ FreeFor check.operations item.1
          (validatedOperation pyStr (item.1, .ofList fields)) := by
      simp [Passes, hobject, hsome]
    rw [hpasses, hsome]
    cases hpreset : evidencePreset (OrderedDict.ofList fields) with
    | none =>
        refine .inl ⟨?_, fun hholds => ?_⟩
        · simp only [checkTool, hvalue, hside, hpreset]
          exact not_clean_report (by decide)
        · obtain ⟨⟨preset, hdeclared, -⟩, -⟩ := hholds
          cases hpreset.symm.trans hdeclared
    | some preset =>
        cases hprevious : (check.operations.get?
            (validatedOperation pyStr (item.1, .ofList fields))).filter (· ≠ item.1) with
        | some previous =>
            obtain ⟨hget, hother⟩ := Option.filter_eq_some_iff.mp hprevious
            refine .inl ⟨?_, fun hholds => of_decide_eq_true hother (hholds.2 previous hget)⟩
            by_cases hunknown : (catalog.getCompletionPreset preset).isNone = true
            · simp only [checkTool, hvalue, hside, hpreset, if_pos hunknown, report_operations,
                hprevious]
              exact not_clean_report (by decide)
            · simp only [checkTool, hvalue, hside, hpreset, if_neg hunknown, hprevious]
              exact not_clean_report (by decide)
        | none =>
            have hfree : FreeFor check.operations item.1
                (validatedOperation pyStr (item.1, .ofList fields)) := by
              intro previous hget
              have hnone := Option.filter_eq_none_iff.mp hprevious previous hget
              simpa using hnone
            by_cases hunknown : (catalog.getCompletionPreset preset).isNone = true
            · refine .inl ⟨?_, fun hholds => ?_⟩
              · simp only [checkTool, hvalue, hside, hpreset, if_pos hunknown, report_operations,
                  hprevious]
                exact not_clean_report (by decide)
              · obtain ⟨⟨other, hdeclared, hknown⟩, -⟩ := hholds
                obtain rfl := Option.some.inj (hpreset.symm.trans hdeclared)
                rw [Option.isNone_iff_eq_none.mp hunknown] at hknown
                cases hknown
            · refine .inr (.inr ⟨⟨⟨preset, hpreset, ?_⟩, hfree⟩, _, rfl, ?_⟩)
              · simpa [Option.isSome_iff_ne_none] using hunknown
              · simp only [checkTool, hvalue, hside, hpreset, if_neg hunknown, hprevious]
                rfl

theorem checkTool_clean_iff : (checkTool catalog pyStr check item).Clean ↔
    check.Clean ∧ Passes catalog pyStr check.operations item := by
  rcases @checkTool_cases pyStr catalog check item with ⟨hnot, hfails⟩ | ⟨hpasses, -, hcheck⟩ |
    ⟨hpasses, tool, -, hcheck⟩
  · exact iff_of_false hnot fun h => hfails h.2
  · rw [hcheck]
    exact ⟨fun h => ⟨h, hpasses⟩, And.left⟩
  · rw [hcheck]
    exact ⟨fun h => ⟨h, hpasses⟩, And.left⟩

theorem checkTool_operations (hclean : (checkTool catalog pyStr check item).Clean) :
    (checkTool catalog pyStr check item).operations =
      match sideEffecting? item with
      | some tool => check.operations.set (validatedOperation pyStr tool) tool.1
      | none => check.operations := by
  rcases @checkTool_cases pyStr catalog check item with ⟨hnot, -⟩ | ⟨-, hnone, hcheck⟩ |
    ⟨-, tool, htool, hcheck⟩
  · exact absurd hclean hnot
  · rw [hcheck, hnone]
  · rw [hcheck, htool]

theorem checkTools_clean_iff {items : List (String × PyValue)} :
    (items.foldl (checkTool catalog pyStr) check).Clean ↔
      check.Clean ∧ (∀ item ∈ items, IsObject item) ∧
        (∀ tool ∈ items.filterMap sideEffecting?, PresetKnown catalog tool) ∧
          TakesFree check.operations ((items.filterMap sideEffecting?).map fun tool =>
            (tool.1, validatedOperation pyStr tool)) := by
  induction items generalizing check with
  | nil => simp [TakesFree]
  | cons item rest ih =>
      rw [List.foldl_cons, ih, List.forall_mem_cons]
      have hstep := @checkTool_clean_iff pyStr catalog check item
      have hoperations := @checkTool_operations pyStr catalog check item
      cases htool : sideEffecting? item with
      | none =>
          rw [Passes, htool] at hstep
          rw [htool] at hoperations
          rw [List.filterMap_cons_none htool]
          constructor
          · rintro ⟨hclean, hobjects, hknown, hfree⟩
            obtain ⟨hcheck, hobject, -⟩ := hstep.mp hclean
            rw [hoperations hclean] at hfree
            exact ⟨hcheck, ⟨hobject, hobjects⟩, hknown, hfree⟩
          · rintro ⟨hcheck, ⟨hobject, hobjects⟩, hknown, hfree⟩
            have hclean := hstep.mpr ⟨hcheck, hobject, fun _ h => nomatch h⟩
            refine ⟨hclean, hobjects, hknown, ?_⟩
            rw [hoperations hclean]
            exact hfree
      | some tool =>
          rw [Passes, htool] at hstep
          rw [htool] at hoperations
          rw [List.filterMap_cons_some htool, List.forall_mem_cons, List.map_cons, TakesFree]
          constructor
          · rintro ⟨hclean, hobjects, hknown, hfree⟩
            obtain ⟨hcheck, hobject, htools⟩ := hstep.mp hclean
            obtain ⟨hpreset, htaken⟩ := htools tool rfl
            rw [hoperations hclean] at hfree
            exact ⟨hcheck, ⟨hobject, hobjects⟩, ⟨hpreset, hknown⟩, htaken, hfree⟩
          · rintro ⟨hcheck, ⟨hobject, hobjects⟩, ⟨hpreset, hknown⟩, htaken, hfree⟩
            have hclean := hstep.mpr ⟨hcheck, hobject, fun other hother => by
              cases hother
              exact ⟨hpreset, htaken⟩⟩
            refine ⟨hclean, hobjects, hknown, ?_⟩
            rw [hoperations hclean]
            exact hfree

/-- What the validator looks for in a document: a version other than one, an entry that is no
object, a preset that is missing or unknown, and an operation that two tools have. -/
structure Faultless (catalog : CompletionCatalog) (pyStr : PyValue → String)
    (doc tools : RegistryMapping) : Prop where
  version : ∀ version, versionOf doc = some version → version = 1
  objects : ∀ item ∈ tools.items, IsObject item
  presets : ∀ tool ∈ tools.items.filterMap sideEffecting?, PresetKnown catalog tool
  operations : Unambiguous ((tools.items.filterMap sideEffecting?).map fun tool =>
    (tool.1, validatedOperation pyStr tool))

theorem documentIssues_clean_iff :
    RegistryCheck.Clean { issues := documentIssues doc } ↔
      ∀ version, versionOf doc = some version → version = 1 := by
  have hcode : "registry.unsupported_version" ≠ documentedCode := by decide
  unfold RegistryCheck.Clean documentIssues
  dsimp only
  rw [List.forall_mem_append]
  refine (and_iff_left ?_).trans ?_
  · split
    · exact List.forall_mem_singleton.mpr rfl
    · exact List.forall_mem_nil _
  · cases versionOf doc with
    | none => exact iff_of_true (List.forall_mem_nil _) fun _ h => nomatch h
    | some version =>
        dsimp only
        split
        next hother =>
          refine iff_of_false (fun h => hcode (h _ (List.mem_singleton.mpr rfl))) fun h => ?_
          exact hother (h version rfl)
        next hone =>
          refine iff_of_true (List.forall_mem_nil _) fun other hsome => ?_
          exact (Option.some.inj hsome).symm.trans (not_not.mp hone)

theorem faultless_iff : Faultless catalog pyStr doc tools ↔
    (tools.items.foldl (checkTool catalog pyStr) { issues := documentIssues doc }).Clean := by
  rw [checkTools_clean_iff, documentIssues_clean_iff, takesFree_empty_iff]
  constructor
  · rintro ⟨hversion, hobjects, hpresets, hoperations⟩
    exact ⟨hversion, hobjects, hpresets, hoperations⟩
  · rintro ⟨hversion, hobjects, hpresets, hoperations⟩
    exact ⟨hversion, hobjects, hpresets, hoperations⟩

end Validate

/-! ## Agreement -/

section Claim

variable {pyStr : PyValue → String} {catalog : CompletionCatalog} {doc tools : RegistryMapping}

/-- The version is absent, `None` or equal to one. -/
def SupportedVersion (doc : RegistryMapping) : Prop :=
  ∀ version, doc.get? "version" = some version → version = .none ∨ version.eqInt 1 = true

/-- The version is supported, the entries are objects, and the constructor builds the registry. -/
structure Builds (pyStr : PyValue → String) (catalog : CompletionCatalog)
    (doc tools : RegistryMapping) (registry : PaybondToolRegistry) : Prop where
  version : SupportedVersion doc
  objects : ∀ item ∈ tools.items, IsObject item
  constructed : constructRegistry pyStr catalog doc = .ok registry

/-- The validator accepts what can be built, and returns the registry that is built. -/
structure Agrees (pyStr : PyValue → String) (catalog : CompletionCatalog)
    (doc tools : RegistryMapping) (result : AgentRegistryValidationResult) : Prop where
  ok_iff : result.ok = true ↔ ∃ registry, Builds pyStr catalog doc tools registry
  built : ∀ registry, Builds pyStr catalog doc tools registry → result.registry = some registry
  otherwise : (¬∃ registry, Builds pyStr catalog doc tools registry) → result.registry = none

theorem version_of_supported (hversion : SupportedVersion doc) :
    ∀ version, versionOf doc = some version → version = 1 := by
  intro version hsome
  unfold versionOf at hsome
  split at hsome
  next found hfound =>
    cases hsome
    rcases hversion _ hfound with h | h
    · cases h
    · have hone : (version : ℚ) = 1 := by simpa [PyValue.eqInt, PyValue.number?] using h
      exact_mod_cast hone
  next found hfound =>
    cases hsome
    rcases hversion _ hfound with h | h
    · cases h
    · cases found with
      | true => rfl
      | false => exact absurd h (by decide)
  next => cases hsome

/-- What is accepted is faultless, and then the constructor decides about the registry. -/
theorem validate_eq (htools : toolsOf doc = .ok tools) :
    ∃ result, validateAgentRegistryDocument catalog pyStr doc = .ok result ∧
      (result.ok = true ↔ Faultless catalog pyStr doc tools) ∧
      (Faultless catalog pyStr doc tools →
        result.registry = (constructRegistry pyStr catalog doc).toOption) ∧
      (¬Faultless catalog pyStr doc tools → result.registry = none) := by
  rw [validateAgentRegistryDocument, htools, except_ok_bind, faultless_iff]
  dsimp only
  have hblocking : ∀ check : RegistryCheck,
      check.issues.filter (·.code ≠ documentedCode) = [] ↔ check.Clean := by
    intro check
    rw [List.filter_eq_nil_iff]
    exact forall₂_congr fun issue _ => by simp
  by_cases hclean : (tools.items.foldl (checkTool catalog pyStr)
      { issues := documentIssues doc }).Clean
  · rw [if_pos ((hblocking _).mpr hclean)]
    have hlength := congrArg List.length ((hblocking _).mpr hclean)
    cases hconstruct : constructRegistry pyStr catalog doc with
    | ok registry =>
        refine ⟨_, rfl, iff_of_true ?_ hclean, fun _ => rfl, fun h => absurd hclean h⟩
        exact decide_eq_true hlength
    | error exception =>
        obtain ⟨message, rfl⟩ := constructRegistry_error htools hconstruct
        refine ⟨_, rfl, iff_of_true ?_ hclean, fun _ => rfl, fun h => absurd hclean h⟩
        exact decide_eq_true hlength
  · have hnot := fun h => hclean ((hblocking _).mp h)
    rw [if_neg hnot]
    refine ⟨_, rfl, iff_of_false ?_ hclean, fun h => absurd h hclean, fun _ => rfl⟩
    intro hok
    exact hnot (List.length_eq_zero_iff.mp (of_decide_eq_true hok))

theorem exists_builds_iff (htools : toolsOf doc = .ok tools) :
    (∃ registry, Builds pyStr catalog doc tools registry) ↔
      Faultless catalog pyStr doc tools ∧ SupportedVersion doc ∧
        (∀ tool ∈ tools.items.filterMap sideEffecting?, pyStrip tool.1 ≠ "") ∧
        Unambiguous ((tools.items.filterMap sideEffecting?).map fun tool =>
          (tool.1, constructedOperation pyStr tool)) := by
  constructor
  · rintro ⟨registry, hversion, hobjects, hconstruct⟩
    obtain ⟨hfit, hunambiguous⟩ :=
      (constructRegistry_ok_iff htools).mp ⟨registry, hconstruct⟩
    refine ⟨⟨version_of_supported hversion, hobjects, fun tool htool => (hfit tool htool).1, ?_⟩,
      hversion, fun tool htool => (hfit tool htool).2, hunambiguous⟩
    -- operations that are the same are the same when they are stripped
    intro first hfirst second hsecond hsame
    obtain ⟨tool, htool, rfl⟩ := List.mem_map.mp hfirst
    obtain ⟨other, hother, rfl⟩ := List.mem_map.mp hsecond
    have hconstructed : constructedOperation pyStr tool = constructedOperation pyStr other := by
      dsimp only at hsame
      rw [constructedOperation, hsame, ← constructedOperation]
    exact hunambiguous (tool.1, constructedOperation pyStr tool)
      (List.mem_map.mpr ⟨tool, htool, rfl⟩) (other.1, constructedOperation pyStr other)
      (List.mem_map.mpr ⟨other, hother, rfl⟩) hconstructed
  · rintro ⟨hfaultless, hversion, hnames, hunambiguous⟩
    obtain ⟨registry, hregistry⟩ := (constructRegistry_ok_iff htools).mpr
      ⟨fun tool htool => ⟨hfaultless.presets tool htool, hnames tool htool⟩, hunambiguous⟩
    exact ⟨registry, hversion, hfaultless.objects, hregistry⟩

/-- The validator agrees with the constructor exactly when a document without the faults that it
looks for has a supported version, no blank name and no operations that are the same once they are
stripped. -/
theorem validate_agrees_iff (htools : toolsOf doc = .ok tools) :
    ∃ result, validateAgentRegistryDocument catalog pyStr doc = .ok result ∧
      (Agrees pyStr catalog doc tools result ↔
        (Faultless catalog pyStr doc tools → SupportedVersion doc ∧
          (∀ tool ∈ tools.items.filterMap sideEffecting?, pyStrip tool.1 ≠ "") ∧
          Unambiguous ((tools.items.filterMap sideEffecting?).map fun tool =>
            (tool.1, constructedOperation pyStr tool)))) := by
  obtain ⟨result, hresult, hok, hregistry, hnone⟩ := @validate_eq pyStr catalog doc tools htools
  have hbuilds := @exists_builds_iff pyStr catalog doc tools htools
  refine ⟨result, hresult, fun hagrees hfaultless => ?_, fun hcondition => ⟨?_, ?_, ?_⟩⟩
  · exact (hbuilds.mp (hagrees.ok_iff.mp (hok.mpr hfaultless))).2
  · rw [hok, hbuilds]
    exact ⟨fun h => ⟨h, hcondition h⟩, And.left⟩
  · intro registry hbuilt
    rw [hregistry (hbuilds.mp ⟨registry, hbuilt⟩).1, hbuilt.constructed]
    rfl
  · intro hnot
    exact hnone fun hfaultless => hnot (hbuilds.mpr ⟨hfaultless, hcondition hfaultless⟩)

end Claim

/-! ## A tool without a name -/

def catalogSmall : CompletionCatalog := ⟨[⟨"cost_and_completion", "generic"⟩]⟩

/-- `str` of a text. -/
def strText : PyValue → String
  | .str text => text
  | _ => ""

/-- The tools of a document, each with the preset of the catalog. -/
def presetTools (names : List String) : List (String × PyValue) :=
  names.map fun name => (name, .dict [("evidence_preset", .str "cost_and_completion")])

def presetDocument (names : List String) : RegistryMapping :=
  .ofList [("version", .int 1), ("tools", .dict (presetTools names))]

/-- A tool with a blank name is accepted, and there is no registry. -/
theorem not_agrees_blank : ¬∀ (pyStr : PyValue → String) (catalog : CompletionCatalog)
    (doc tools : RegistryMapping), toolsOf doc = .ok tools →
      ∃ result, validateAgentRegistryDocument catalog pyStr doc = .ok result ∧
        Agrees pyStr catalog doc tools result := by
  intro hclaim
  have htools : toolsOf (presetDocument [" "]) = .ok (.ofList (presetTools [" "])) := by rfl
  obtain ⟨result, hresult, hagrees⟩ := hclaim strText catalogSmall _ _ htools
  obtain ⟨returned, hreturned, hok, -⟩ := @validate_eq strText catalogSmall _ _ htools
  obtain rfl := Except.ok.inj (hresult.symm.trans hreturned)
  have hfaultless := (@faultless_iff strText catalogSmall (presetDocument [" "])
    (.ofList (presetTools [" "]))).mpr (forall_mem_of_all (by decide +kernel))
  obtain ⟨-, -, hnames, -⟩ :=
    (exists_builds_iff htools).mp (hagrees.ok_iff.mp (hok.mpr hfaultless))
  refine hnames (" ", .ofList [("evidence_preset", .str "cost_and_completion")]) ?_ (by decide)
  exact List.mem_filterMap.mpr ⟨_, List.mem_cons_self, by rfl⟩

theorem validate_agrees_iff_small : ∃ result,
    validateAgentRegistryDocument catalogSmall strText (presetDocument ["pay", "refund"]) =
      .ok result ∧
      (Agrees strText catalogSmall (presetDocument ["pay", "refund"])
        (.ofList (presetTools ["pay", "refund"])) result ↔
        (Faultless catalogSmall strText (presetDocument ["pay", "refund"])
          (.ofList (presetTools ["pay", "refund"])) →
          SupportedVersion (presetDocument ["pay", "refund"]) ∧
          (∀ tool ∈ (OrderedDict.ofList (presetTools ["pay", "refund"])).items.filterMap
            sideEffecting?, pyStrip tool.1 ≠ "") ∧
          Unambiguous (((OrderedDict.ofList (presetTools ["pay", "refund"])).items.filterMap
            sideEffecting?).map fun tool => (tool.1, constructedOperation strText tool)))) :=
  validate_agrees_iff (by rfl)

end PaybondKit.Agent
