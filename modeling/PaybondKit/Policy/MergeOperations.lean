import PaybondKit.Policy.MergeSound
import PaybondKit.Policy.Registry

/-!
# Caps of operations after a merge

The merge compares caps tool by tool, Harbor enforces them operation by operation.
An override may rename the operation of an org tool, and another tool may then take
the operation that was freed, with any cap.
-/

namespace PaybondKit.Policy

open Agent Merging

/-! ## The merged tools -/

/-- What a patch makes of an entry: each field that it sets replaces the entry's. -/
def patchedEntry (base : PaybondPolicyToolEntry) (patch : PaybondPolicyToolOverrideEntry) :
    PaybondPolicyToolEntry where
  sideEffecting := patch.sideEffecting.getD base.sideEffecting
  maxSpendCents :=
    if patch.spendFromArgs.isSome then none else patch.maxSpendCents.or base.maxSpendCents
  spendFromArgs :=
    patch.spendFromArgs.or (if patch.maxSpendCents.isSome then none else base.spendFromArgs)
  evidencePreset := patch.evidencePreset.or base.evidencePreset
  vendorPack := patch.vendorPack.or base.vendorPack
  operation := patch.operation.or base.operation

def toolPatches (overlay : PaybondPolicyDocumentV2) :
    OrderedDict String PaybondPolicyToolOverrideEntry :=
  (overlay.overrides.bind (·.tools)).getD .empty

/-- The layers read from the top: an org tool as its patch leaves it, or a tool of the
tenant's own. -/
def layeredTool (base : PaybondPolicyDocument) (overlay : PaybondPolicyDocumentV2)
    (toolName : String) : Option PaybondPolicyToolEntry :=
  match base.tools.get? toolName with
  | some entry => some (((toolPatches overlay).get? toolName).elim entry (patchedEntry entry))
  | none => overlay.tools.get? toolName

section ToolFields

variable {base merged : PaybondPolicyToolEntry} {patch : PaybondPolicyToolOverrideEntry}
variable {toolName : String}

theorem mergeSideEffecting_value
    (hdenied : (mergeSideEffecting base patch toolName merged).denied = []) :
    (mergeSideEffecting base patch toolName merged).value =
      { merged with sideEffecting := patch.sideEffecting.getD merged.sideEffecting } := by
  unfold mergeSideEffecting at hdenied ⊢
  split at hdenied
  next hnone => rw [hnone]; rfl
  next hsome =>
    split at hdenied
    · simp at hdenied
    next hkeep =>
      rw [if_neg hkeep, hsome]
      rfl

theorem mergeMaxSpendCents_value
    (hdenied : (mergeMaxSpendCents base patch toolName merged).denied = []) :
    (mergeMaxSpendCents base patch toolName merged).value =
      { merged with
        maxSpendCents := patch.maxSpendCents.or merged.maxSpendCents
        spendFromArgs := if patch.maxSpendCents.isSome then none else merged.spendFromArgs } := by
  unfold mergeMaxSpendCents at hdenied ⊢
  split at hdenied
  next hnone => rw [hnone]; rfl
  next cap hsome =>
    rw [hsome]
    split at hdenied
    next =>
      split at hdenied
      · simp at hdenied
      next hle =>
        rw [if_neg hle]
        rfl
    next => rfl

theorem mergeSpendFromArgs_value
    (hdenied : (mergeSpendFromArgs base patch toolName merged).denied = []) :
    (mergeSpendFromArgs base patch toolName merged).value =
      { merged with
        maxSpendCents := if patch.spendFromArgs.isSome then none else merged.maxSpendCents
        spendFromArgs := patch.spendFromArgs.or merged.spendFromArgs } := by
  unfold mergeSpendFromArgs at hdenied ⊢
  split at hdenied
  next hnone => rw [hnone]; rfl
  next hsome =>
    split at hdenied
    · simp at hdenied
    next hnone =>
      rw [if_neg hnone, hsome]
      rfl

theorem mergeEvidencePreset_value {orgPolicyId : Option String} :
    (mergeEvidencePreset base patch toolName orgPolicyId merged).value =
      { merged with evidencePreset := patch.evidencePreset.or merged.evidencePreset } := by
  unfold mergeEvidencePreset
  split <;> simp_all

theorem mergeVendorPack_value :
    (mergeVendorPack patch toolName merged).value =
      { merged with vendorPack := patch.vendorPack.or merged.vendorPack } := by
  unfold mergeVendorPack
  split <;> simp_all

theorem mergeOperation_value :
    (mergeOperation patch toolName merged).value =
      { merged with operation := patch.operation.or merged.operation } := by
  unfold mergeOperation
  split <;> simp_all

/-- A patch that is not denied is applied as it stands. -/
theorem mergeToolFields_value {report : PolicyMergeReport}
    (hdenied : (mergeToolFields base patch toolName report).denied = []) :
    (mergeToolFields base patch toolName report).value = patchedEntry base patch := by
  simp only [mergeToolFields, bind_denied, bind_value, pure_value] at hdenied ⊢
  obtain ⟨hside, hcap, hargs, -⟩ := hdenied
  rw [mergeOperation_value, mergeVendorPack_value, mergeEvidencePreset_value,
    mergeSpendFromArgs_value hargs, mergeMaxSpendCents_value hcap, mergeSideEffecting_value hside]
  rfl

/-- A patched entry stays side-effecting and keeps a fixed cap within the old one. -/
theorem patchedEntry_guards {report : PolicyMergeReport}
    (hdenied : (mergeToolFields base patch toolName report).denied = []) :
    (base.sideEffecting = true → (patchedEntry base patch).sideEffecting = true) ∧
      ∀ cap, base.maxSpendCents = some cap →
        ∃ cap' ≤ cap, (patchedEntry base patch).maxSpendCents = some cap' := by
  simp only [mergeToolFields, bind_denied] at hdenied
  obtain ⟨hside, hcap, hargs, -⟩ := hdenied
  constructor
  · intro hbase
    unfold mergeSideEffecting at hside
    split at hside
    next hnone => simpa [patchedEntry, hnone] using hbase
    next sideEffecting hsome =>
      have hkeep : sideEffecting = true := by
        by_contra hoff
        obtain rfl : sideEffecting = false := by simpa using hoff
        simp [hbase] at hside
      simp [patchedEntry, hsome, hkeep]
  · intro cap hbase
    have hnone : patch.spendFromArgs = none := by
      unfold mergeSpendFromArgs at hargs
      split at hargs
      next hnone => exact hnone
      next => simp [hbase] at hargs
    unfold mergeMaxSpendCents at hcap
    split at hcap
    next hkeep => exact ⟨cap, le_rfl, by simp [patchedEntry, hnone, hkeep, hbase]⟩
    next cap' hsome =>
      refine ⟨cap', ?_, by simp [patchedEntry, hnone, hsome]⟩
      by_contra hraised
      simp [hbase, not_le.mp hraised] at hcap

end ToolFields

section ToolLoops

variable {tools : OrderedDict String PaybondPolicyToolEntry}

/-- The patches name distinct tools, so each entry is patched at most once. -/
theorem mergeOverrideTools_get? {report : PolicyMergeReport}
    {patches : List (String × PaybondPolicyToolOverrideEntry)}
    (hnodup : (patches.map Prod.fst).Nodup)
    (hdenied : (mergeOverrideTools report tools patches).denied = []) (toolName : String) :
    (mergeOverrideTools report tools patches).value.get? toolName =
      (tools.get? toolName).map fun entry =>
        ((patches.find? (·.1 = toolName)).map Prod.snd).elim entry (patchedEntry entry) := by
  induction patches generalizing tools with
  | nil => simp [mergeOverrideTools]
  | cons item patches ih =>
      obtain ⟨name, patch⟩ := item
      obtain ⟨hnot, hnodup⟩ := List.nodup_cons.mp hnodup
      rw [mergeOverrideTools, List.foldlM_cons] at hdenied ⊢
      obtain ⟨hitem, hrest⟩ := (bind_denied _ _).mp hdenied
      rw [bind_value]
      have hlater := ih hnodup hrest
      rw [mergeOverrideTools] at hlater
      rw [hlater]
      split at hitem
      · simp at hitem
      next existing hexisting =>
        simp only [map_denied] at hitem
        simp only [map_value, mergeToolFields_value hitem, OrderedDict.get?_set]
        by_cases hsame : toolName = name
        · subst hsame
          have hnone : patches.find? (fun item => decide (item.1 = toolName)) = none := by
            rw [List.find?_eq_none]
            intro other hother hname
            exact hnot (List.mem_map.mpr ⟨other, hother, by simpa using hname⟩)
          simp [hexisting, hnone]
        · have hne : ¬name = toolName := fun h => hsame h.symm
          simp [hsame, hne]

/-- No patch of an org tool is denied. -/
theorem mergeOverrideTools_denied {report : PolicyMergeReport}
    {patches : List (String × PaybondPolicyToolOverrideEntry)}
    (hnodup : (patches.map Prod.fst).Nodup)
    (hdenied : (mergeOverrideTools report tools patches).denied = []) {toolName : String}
    {patch : PaybondPolicyToolOverrideEntry} {entry : PaybondPolicyToolEntry}
    (hpatch : (toolName, patch) ∈ patches) (hentry : tools.get? toolName = some entry) :
    (mergeToolFields entry patch toolName report).denied = [] := by
  induction patches generalizing tools with
  | nil => cases hpatch
  | cons item patches ih =>
      obtain ⟨hnot, hnodup⟩ := List.nodup_cons.mp hnodup
      rw [mergeOverrideTools, List.foldlM_cons] at hdenied
      obtain ⟨hitem, hrest⟩ := (bind_denied _ _).mp hdenied
      rcases List.mem_cons.mp hpatch with rfl | hlater
      · simp only [hentry] at hitem
        exact (map_denied _ _).mp hitem
      · refine ih hnodup hrest hlater ?_
        have hne : ¬toolName = item.1 := by
          rintro rfl
          exact hnot (List.mem_map.mpr ⟨_, hlater, rfl⟩)
        split
        next => exact hentry
        next => rw [map_value, OrderedDict.get?_set, if_neg hne, hentry]

/-- Appended tools are new, and keep the entries they come with. -/
theorem appendOverlayTools_get? {entries : List (String × PaybondPolicyToolEntry)}
    (hnodup : (entries.map Prod.fst).Nodup)
    (hdenied : (appendOverlayTools tools entries).denied = []) (toolName : String) :
    (appendOverlayTools tools entries).value.get? toolName =
      (tools.get? toolName).or ((entries.find? (·.1 = toolName)).map Prod.snd) := by
  induction entries generalizing tools with
  | nil => simp [appendOverlayTools]
  | cons item entries ih =>
      obtain ⟨name, entry⟩ := item
      obtain ⟨hnot, hnodup⟩ := List.nodup_cons.mp hnodup
      rw [appendOverlayTools, List.foldlM_cons] at hdenied ⊢
      obtain ⟨hitem, hrest⟩ := (bind_denied _ _).mp hdenied
      rw [bind_value]
      have hlater := ih hnodup hrest
      rw [appendOverlayTools] at hlater
      rw [hlater]
      split at hitem
      · simp at hitem
      next hnew =>
        have hnone : tools.get? name = none := by simpa [OrderedDict.contains] using hnew
        simp only [hnew, Bool.false_eq_true, if_false, pure_value, OrderedDict.get?_set]
        by_cases hsame : toolName = name
        · subst hsame
          simp [hnone]
        · have hne : ¬name = toolName := fun h => hsame h.symm
          simp [hsame, hne]

end ToolLoops

section Merge

variable {floatRepr : PyFloat → String} {base : PaybondPolicyDocument}
variable {overlay : PaybondPolicyDocumentV2} {options : PolicyMergeOptions}
variable {result : PolicyMergeResult}

theorem overridePatches_eq :
    (overlay.overrides.bind (·.tools)).elim [] (·.items) = (toolPatches overlay).items := by
  unfold toolPatches
  cases overlay.overrides.bind (·.tools) <;> rfl

/-- A successful merge reads the layers from the top. -/
theorem mergePaybondPolicies_get?
    (hmerge : mergePaybondPolicies floatRepr base overlay options = .ok result)
    (toolName : String) :
    result.effective.tools.get? toolName = layeredTool base overlay toolName := by
  obtain ⟨report, hdenied, heffective⟩ := mergePaybondPolicies_eq_ok hmerge
  rw [← heffective]
  simp only [mergeLayers, bind_denied, bind_value, pure_value, baseDocumentToEffectiveV1]
    at hdenied ⊢
  obtain ⟨-, hpatched, happended, -⟩ := hdenied
  rw [overridePatches_eq] at hpatched happended ⊢
  rw [appendOverlayTools_get? overlay.tools.nodup happended,
    mergeOverrideTools_get? (toolPatches overlay).nodup hpatched, layeredTool]
  cases base.tools.get? toolName with
  | none => rfl
  | some entry => rfl

/-- An org tool stays side-effecting under a fixed cap within its own. -/
theorem layeredTool_guards
    (hmerge : mergePaybondPolicies floatRepr base overlay options = .ok result)
    {toolName : String} {entry : PaybondPolicyToolEntry}
    (hentry : base.tools.get? toolName = some entry) :
    ∃ merged, layeredTool base overlay toolName = some merged ∧
      (entry.sideEffecting = true → merged.sideEffecting = true) ∧
        ∀ cap, entry.maxSpendCents = some cap → ∃ cap' ≤ cap, merged.maxSpendCents = some cap' := by
  obtain ⟨report, hdenied, -⟩ := mergePaybondPolicies_eq_ok hmerge
  simp only [mergeLayers, bind_denied, baseDocumentToEffectiveV1] at hdenied
  obtain ⟨-, hpatched, -⟩ := hdenied
  rw [overridePatches_eq] at hpatched
  rw [layeredTool, hentry]
  cases hpatch : (toolPatches overlay).get? toolName with
  | none => exact ⟨entry, rfl, id, fun cap hcap => ⟨cap, le_rfl, hcap⟩⟩
  | some patch =>
      have hguards := patchedEntry_guards (mergeOverrideTools_denied (toolPatches overlay).nodup
        hpatched (OrderedDict.get?_eq_some_iff.mp hpatch) hentry)
      exact ⟨patchedEntry entry patch, rfl, hguards⟩

end Merge

/-! ## Caps by operation -/

/-- The operation is that of a side-effecting tool with a fixed cap. -/
def FixedCap (registry : PaybondToolRegistry) (operation : String) (cap : Int) : Prop :=
  ∃ toolName entry, registry.sideEffecting.get? toolName = some entry ∧
    entry.operation = operation ∧ entry.spendCents = some (.cents cap)

/-- Every side-effecting tool with the operation has a fixed cap within the given one. -/
def OperationCapped (registry : PaybondToolRegistry) (operation : String) (cap : Int) : Prop :=
  ∀ toolName entry, registry.sideEffecting.get? toolName = some entry →
    entry.operation = operation → ∃ cap' ≤ cap, entry.spendCents = some (.cents cap')

/-- Where an override renames the operation of a capped org tool, whichever tool takes
the old operation has a fixed cap within that of the org tool. -/
def FreedOperationsCapped (base : PaybondPolicyDocument) (overlay : PaybondPolicyDocumentV2) :
    Prop :=
  ∀ toolName entry patch cap, base.tools.get? toolName = some entry →
    entry.sideEffecting = true → entry.maxSpendCents = some cap →
    (toolPatches overlay).get? toolName = some patch →
    registeredOperation toolName (patchedEntry entry patch) ≠ registeredOperation toolName entry →
      ∀ taker taken, layeredTool base overlay taker = some taken → taken.sideEffecting = true →
        registeredOperation taker taken = registeredOperation toolName entry →
          ∃ cap' ≤ cap, taken.maxSpendCents = some cap'

theorem toolRegistryPolicy_cents {toolName : String} {entry : PaybondPolicyToolEntry} {cap : Int} :
    (toolRegistryPolicy toolName entry).spendCents = some (.cents cap) ↔
      entry.maxSpendCents = some cap := by
  cases hcap : entry.maxSpendCents with
  | some cap => simp [toolRegistryPolicy, hcap]
  | none => cases hpath : truthyStr entry.spendFromArgs <;> simp [toolRegistryPolicy, hcap, hpath]

/-- A side-effecting tool of a document is registered with its operation and its cap. -/
theorem policyToToolRegistry_of_sideEffecting {catalog : CompletionCatalog}
    {document : PaybondPolicyDocumentV1} {registry : PaybondToolRegistry} {toolName : String}
    {entry : PaybondPolicyToolEntry}
    (hregistry : policyToToolRegistry catalog document = .ok registry)
    (hentry : document.tools.get? toolName = some entry) (hside : entry.sideEffecting = true) :
    ∃ registered, registry.sideEffecting.get? toolName = some registered ∧
      registered.operation = registeredOperation toolName entry ∧
        ∀ cap, registered.spendCents = some (.cents cap) ↔ entry.maxSpendCents = some cap := by
  have hcontains := (policyToToolRegistry_contains hregistry toolName).mpr ⟨entry, hentry, hside⟩
  obtain ⟨registered, hregistered⟩ := Option.isSome_iff_exists.mp hcontains
  obtain ⟨found, hfound, -, hoperation, hspend⟩ := policyToToolRegistry_get? hregistry hregistered
  cases hentry.symm.trans hfound
  refine ⟨registered, hregistered, hoperation, fun cap => ?_⟩
  rw [hspend]
  exact toolRegistryPolicy_cents

/-- The merge keeps the cap of every operation exactly when a freed operation is taken
by a tool whose cap is no larger. -/
theorem mergePaybondPolicies_operationCapped_iff {floatRepr : PyFloat → String}
    {catalog : CompletionCatalog} {base : PaybondPolicyDocument}
    {overlay : PaybondPolicyDocumentV2} {options : PolicyMergeOptions}
    {result : PolicyMergeResult} {baseRegistry effectiveRegistry : PaybondToolRegistry}
    (hmerge : mergePaybondPolicies floatRepr base overlay options = .ok result)
    (hbase : policyToToolRegistry catalog (baseDocumentToEffectiveV1 base) = .ok baseRegistry)
    (heffective : policyToToolRegistry catalog result.effective = .ok effectiveRegistry) :
    (∀ operation cap, FixedCap baseRegistry operation cap →
        OperationCapped effectiveRegistry operation cap) ↔
      FreedOperationsCapped base overlay := by
  constructor
  · intro hkept toolName entry patch cap hentry hside hcap _ _ taker taken htaken htakenSide hsame
    have hdocument : (baseDocumentToEffectiveV1 base).tools.get? toolName = some entry := hentry
    obtain ⟨registered, hregistered, hoperation, hcents⟩ :=
      policyToToolRegistry_of_sideEffecting hbase hdocument hside
    rw [← mergePaybondPolicies_get? hmerge] at htaken
    obtain ⟨registered', hregistered', hoperation', hcents'⟩ :=
      policyToToolRegistry_of_sideEffecting heffective htaken htakenSide
    have hfixed : FixedCap baseRegistry registered.operation cap :=
      ⟨toolName, registered, hregistered, rfl, (hcents cap).mpr hcap⟩
    have htook : registered'.operation = registered.operation := by
      rw [hoperation', hoperation, hsame]
    obtain ⟨cap', hle, hcap'⟩ := hkept _ cap hfixed taker registered' hregistered' htook
    exact ⟨cap', hle, (hcents' cap').mp hcap'⟩
  · rintro hfreed operation cap ⟨toolName, registered, hregistered, rfl, hspend⟩
    intro taker registered' hregistered' htook
    obtain ⟨entry, hdocument, hside, hoperation, hrule⟩ :=
      policyToToolRegistry_get? hbase hregistered
    have hentry : base.tools.get? toolName = some entry := hdocument
    obtain ⟨taken, htaken, htakenSide, hoperation', hrule'⟩ :=
      policyToToolRegistry_get? heffective hregistered'
    have hcap : entry.maxSpendCents = some cap :=
      toolRegistryPolicy_cents.mp (hrule.symm.trans hspend)
    obtain ⟨merged, hmerged, hmergedSide, hmergedCap⟩ := layeredTool_guards hmerge hentry
    have hgoal : ∀ cap', taken.maxSpendCents = some cap' → registered'.spendCents = some (.cents cap') :=
      fun cap' hcap' => hrule'.trans (toolRegistryPolicy_cents.mpr hcap')
    rw [mergePaybondPolicies_get? hmerge] at htaken
    by_cases hsame : taker = toolName
    · -- the org tool itself, under a cap that was compared
      subst hsame
      cases hmerged.symm.trans htaken
      obtain ⟨cap', hle, hcap'⟩ := hmergedCap cap hcap
      exact ⟨cap', hle, hgoal cap' hcap'⟩
    · -- two tools cannot share the operation, so the org tool has lost it
      have hlost : registeredOperation toolName merged ≠ registeredOperation toolName entry := by
        intro hkept
        rw [← mergePaybondPolicies_get? hmerge] at hmerged
        obtain ⟨still, hstill, hstillOperation, -⟩ :=
          policyToToolRegistry_of_sideEffecting heffective hmerged (hmergedSide hside)
        refine hsame (policyToToolRegistry_operation_unique heffective hregistered' hstill ?_)
        rw [htook, hoperation, hstillOperation, hkept]
      rw [layeredTool, hentry] at hmerged
      cases hpatch : (toolPatches overlay).get? toolName with
      | none =>
          rw [hpatch] at hmerged
          cases hmerged
          exact absurd rfl hlost
      | some patch =>
          rw [hpatch] at hmerged
          cases hmerged
          have hoperations : registeredOperation taker taken = registeredOperation toolName entry := by
            rw [← hoperation', htook, hoperation]
          obtain ⟨cap', hle, hcap'⟩ := hfreed toolName entry patch cap hentry hside hcap hpatch hlost
            taker taken htaken htakenSide hoperations
          exact ⟨cap', hle, hgoal cap' hcap'⟩

/-- The tenant renames the operation of the org's tool, and has a tool of its own. -/
def tenantOverlayRenaming (operation : String) (cap : Int) : PyValue := .dict [
  ("version", .int 2), ("name", .str "acme-travel-tenant-east"), ("default_deny", .bool false),
  ("extends", .dict [("org_policy_id", .str "acme-agent-spend-v1"), ("org_id", .str "org_acme")]),
  ("tools", .dict [("travel.book_suite", .dict [("side_effecting", .bool true),
    ("operation", .str operation), ("max_spend_cents", .int cap),
    ("evidence_preset", .str "cost_and_completion")])]),
  ("overrides", .dict [("tools", .dict [("travel.book_hotel",
    .dict [("operation", .str "travel.book_hotel_legacy")])])])]

def tenantDocumentRenaming (operation : String) (cap : Int) : PaybondPolicyDocumentV2 where
  name := "acme-travel-tenant-east"
  defaultDeny := false
  tools := .ofList [("travel.book_suite",
    { sideEffecting := true, operation := some operation, maxSpendCents := some cap
      evidencePreset := some "cost_and_completion" })]
  «extends» := some { orgPolicyId := "acme-agent-spend-v1", orgId := "org_acme" }
  overrides := some {
    tools := some (.ofList [("travel.book_hotel",
      { operation := some "travel.book_hotel_legacy" })]) }

def catalogTravel : CompletionCatalog := ⟨[⟨"cost_and_completion", "builtin"⟩]⟩

theorem mergePaybondPolicies_operationCapped_travel : ∃ base result baseRegistry effectiveRegistry,
    parsePaybondPolicyDocument orgBaseTravel = .ok base ∧
      mergePaybondPolicies (fun _ => "") base
        (tenantDocumentRenaming "travel.book_suite" 900000) {} = .ok result ∧
      policyToToolRegistry catalogTravel (baseDocumentToEffectiveV1 base) = .ok baseRegistry ∧
      policyToToolRegistry catalogTravel result.effective = .ok effectiveRegistry ∧
      ((∀ operation cap, FixedCap baseRegistry operation cap →
          OperationCapped effectiveRegistry operation cap) ↔
        FreedOperationsCapped base (tenantDocumentRenaming "travel.book_suite" 900000)) :=
  ⟨_, _, _, _, rfl, rfl, rfl, rfl,
    @mergePaybondPolicies_operationCapped_iff (fun _ => "") catalogTravel _
      (tenantDocumentRenaming "travel.book_suite" 900000) {} _ _ _ rfl rfl rfl⟩

/-- The tenant's tool takes the operation that the org's tool was renamed from. -/
theorem mergePaybondPolicies_raises_operation_cap : ∃ base overlay result baseRegistry effectiveRegistry,
    parsePaybondPolicyDocument orgBaseTravel = .ok base ∧
      parsePaybondPolicyDocument (tenantOverlayRenaming "travel.book_hotel" 900000) =
        .ok (.v2 overlay) ∧
      mergePaybondPolicies (fun _ => "") base overlay {} = .ok result ∧
      policyToToolRegistry catalogTravel (baseDocumentToEffectiveV1 base) = .ok baseRegistry ∧
      policyToToolRegistry catalogTravel result.effective = .ok effectiveRegistry ∧
      FixedCap baseRegistry "travel.book_hotel" 20000 ∧
      ¬OperationCapped effectiveRegistry "travel.book_hotel" 20000 := by
  refine ⟨_, _, _, _, _, rfl, rfl, rfl, rfl, rfl, ⟨"travel.book_hotel", _, rfl, rfl, rfl⟩, ?_⟩
  intro hcapped
  obtain ⟨cap', hle, hcap'⟩ := hcapped "travel.book_suite" _ rfl rfl
  cases hcap'
  exact absurd hle (by decide)

end PaybondKit.Policy
