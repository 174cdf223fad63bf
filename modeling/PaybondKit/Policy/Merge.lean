import PaybondKit.Policy.Schema

/-!
# Merging an org base with a tenant overlay

The seven merge helpers record what they deny and what they apply in two lists
that only grow. The merge succeeds when nothing was denied.
-/

namespace PaybondKit.Policy

/-- One entry of the denial list. -/
structure PolicyMergeDeniedWidening where
  path : String
  code : String
  message : String
  deriving DecidableEq, Repr

structure PolicyMergeReport where
  orgPolicyId : Option String
  orgId : Option String
  basePolicyName : String
  overlayPolicyName : Option String
  overridesApplied : List String := []
  deniedWidenings : List PolicyMergeDeniedWidening := []
  deriving DecidableEq, Repr

structure PolicyMergeResult where
  effective : PaybondPolicyDocumentV1
  report : PolicyMergeReport

structure PolicyMergeOptions where
  approvedEvidencePresets : Option (List String) := none
  deriving DecidableEq, Repr

/-- A value computed by the merge, with what was recorded on the way. -/
structure Merging (α : Type) where
  value : α
  denied : List PolicyMergeDeniedWidening := []
  overridesApplied : List String := []

namespace Merging

variable {α β : Type}

instance : Monad Merging where
  pure value := { value }
  bind first rest :=
    let second := rest first.value
    { value := second.value
      denied := first.denied ++ second.denied
      overridesApplied := first.overridesApplied ++ second.overridesApplied }

@[simp] theorem pure_value (value : α) : (pure value : Merging α).value = value := rfl

@[simp] theorem pure_denied (value : α) : (pure value : Merging α).denied = [] := rfl

@[simp] theorem bind_value (first : Merging α) (rest : α → Merging β) :
    (first >>= rest).value = (rest first.value).value := rfl

/-- A sequence denies nothing when no part of it does. -/
@[simp] theorem bind_denied (first : Merging α) (rest : α → Merging β) :
    (first >>= rest).denied = [] ↔ first.denied = [] ∧ (rest first.value).denied = [] :=
  List.append_eq_nil_iff

@[simp] theorem map_value (f : α → β) (first : Merging α) :
    (f <$> first).value = f first.value := rfl

@[simp] theorem map_denied (f : α → β) (first : Merging α) :
    (f <$> first).denied = [] ↔ first.denied = [] := by
  rw [show f <$> first = first >>= fun value => pure (f value) from rfl, bind_denied]
  simp

/-- `_deny`. -/
def deny (path code message : String) : Merging Unit :=
  { value := (), denied := [{ path, code, message }] }

/-- `overrides_applied.append(path)`. -/
def applied (path : String) : Merging Unit := { value := (), overridesApplied := [path] }

def denyIf (condition : Prop) [Decidable condition] (path code message : String) :
    Merging Unit :=
  if condition then deny path code message else pure ()

def appliedIf (condition : Prop) [Decidable condition] (path : String) : Merging Unit :=
  if condition then applied path else pure ()

@[simp] theorem deny_denied (path code message : String) :
    (deny path code message).denied ≠ [] := by
  simp [deny]

@[simp] theorem applied_denied (path : String) : (applied path).denied = [] := rfl

@[simp] theorem denyIf_denied (condition : Prop) [Decidable condition]
    (path code message : String) :
    (denyIf condition path code message).denied = [] ↔ ¬condition := by
  unfold denyIf
  split <;> simp_all

@[simp] theorem appliedIf_denied (condition : Prop) [Decidable condition] (path : String) :
    (appliedIf condition path).denied = [] := by
  unfold appliedIf
  split <;> rfl

/-- A loop that denied nothing keeps what each of its rounds keeps. -/
theorem foldlM_invariant (Inv : β → Prop) {step : β → α → Merging β}
    (hstep : ∀ state item, Inv state → (step state item).denied = [] →
      Inv (step state item).value)
    {items : List α} {init : β} (hinit : Inv init)
    (hdenied : (items.foldlM step init).denied = []) : Inv (items.foldlM step init).value := by
  induction items generalizing init with
  | nil => exact hinit
  | cons item items ih =>
      rw [List.foldlM_cons] at hdenied ⊢
      obtain ⟨hitem, hrest⟩ := (bind_denied _ _).mp hdenied
      exact ih (hstep init item hinit hitem) hrest

end Merging

open Merging

namespace PaybondPolicyDocument

def name : PaybondPolicyDocument → String
  | .v1 document => document.name
  | .v2 document => document.name

def defaultDeny : PaybondPolicyDocument → Bool
  | .v1 document => document.defaultDeny
  | .v2 document => document.defaultDeny

def tools : PaybondPolicyDocument → OrderedDict String PaybondPolicyToolEntry
  | .v1 document => document.tools
  | .v2 document => document.tools

def intent : PaybondPolicyDocument → Option PaybondPolicyIntentSection
  | .v1 document => document.intent
  | .v2 document => document.intent

def adapter : PaybondPolicyDocument → Option PaybondPolicyAdapterSection
  | .v1 document => document.adapter
  | .v2 document => document.adapter

end PaybondPolicyDocument

def mergeStricterDefaultDeny (values : List Bool) : Bool := values.any (· = true)

/-! ## Tool entries -/

section ToolFields

variable (base : PaybondPolicyToolEntry) (patch : PaybondPolicyToolOverrideEntry)
variable (toolName : String)

def mergeSideEffecting (merged : PaybondPolicyToolEntry) : Merging PaybondPolicyToolEntry :=
  match patch.sideEffecting with
  | none => pure merged
  | some sideEffecting =>
      if base.sideEffecting && !sideEffecting then do
        deny s!"tools.{toolName}.side_effecting" "policy.cannot_disable_org_side_effecting_tool"
          s!"cannot disable org-required side-effecting tool \"{toolName}\""
        return merged
      else do
        applied s!"tools.{toolName}.side_effecting"
        return { merged with sideEffecting }

/-- A new cap replaces whichever spend field the entry had. -/
def mergeMaxSpendCents (merged : PaybondPolicyToolEntry) : Merging PaybondPolicyToolEntry :=
  match patch.maxSpendCents with
  | none => pure merged
  | some cap =>
      match base.maxSpendCents with
      | some orgCap =>
          if orgCap < cap then do
            deny s!"tools.{toolName}.max_spend_cents" "policy.cannot_raise_spend_cap"
              s!"tenant max_spend_cents ({cap}) exceeds org cap ({orgCap})"
            return merged
          else do
            applied s!"tools.{toolName}.max_spend_cents"
            return { merged with maxSpendCents := some cap, spendFromArgs := none }
      | none => do
          applied s!"tools.{toolName}.max_spend_cents"
          return { merged with maxSpendCents := some cap, spendFromArgs := none }

def mergeSpendFromArgs (merged : PaybondPolicyToolEntry) : Merging PaybondPolicyToolEntry :=
  match patch.spendFromArgs with
  | none => pure merged
  | some argsPath =>
      if base.maxSpendCents.isSome then do
        deny s!"tools.{toolName}.spend_from_args" "policy.cannot_override_org_spend_mode"
          s!"cannot replace org max_spend_cents with spend_from_args on \"{toolName}\""
        return merged
      else do
        applied s!"tools.{toolName}.spend_from_args"
        return { merged with maxSpendCents := none, spendFromArgs := some argsPath }

def mergeEvidencePreset (orgPolicyId : Option String) (merged : PaybondPolicyToolEntry) :
    Merging PaybondPolicyToolEntry :=
  match patch.evidencePreset with
  | none => pure merged
  | some preset => do
      appliedIf (base.evidencePreset ≠ some preset ∧ orgPolicyId.isSome)
        s!"tools.{toolName}.evidence_preset"
      return { merged with evidencePreset := some preset }

def mergeVendorPack (merged : PaybondPolicyToolEntry) : Merging PaybondPolicyToolEntry :=
  match patch.vendorPack with
  | none => pure merged
  | some vendorPack => do
      applied s!"tools.{toolName}.vendor_pack"
      return { merged with vendorPack := some vendorPack }

def mergeOperation (merged : PaybondPolicyToolEntry) : Merging PaybondPolicyToolEntry :=
  match patch.operation with
  | none => pure merged
  | some operation => do
      applied s!"tools.{toolName}.operation"
      return { merged with operation := some operation }

/-- The two checks on the finished entry. -/
def checkMergedEntry (merged : PaybondPolicyToolEntry) : Merging Unit := do
  denyIf (merged.sideEffecting ∧ truthyStr merged.evidencePreset = none)
    s!"tools.{toolName}.evidence_preset" "policy.missing_evidence_preset"
    s!"side-effecting tool \"{toolName}\" must declare evidence_preset after merge"
  denyIf (merged.maxSpendCents.isSome ∧ merged.spendFromArgs.isSome)
    s!"tools.{toolName}" "policy.conflicting_spend_fields"
    "max_spend_cents and spend_from_args are mutually exclusive"

/-- `_merge_tool_fields`. -/
def mergeToolFields (report : PolicyMergeReport) : Merging PaybondPolicyToolEntry := do
  let merged ← mergeSideEffecting base patch toolName base
  let merged ← mergeMaxSpendCents base patch toolName merged
  let merged ← mergeSpendFromArgs base patch toolName merged
  let merged ← mergeEvidencePreset base patch toolName report.orgPolicyId merged
  let merged ← mergeVendorPack patch toolName merged
  let merged ← mergeOperation patch toolName merged
  checkMergedEntry toolName merged
  return merged

end ToolFields

/-! ## Intent sections -/

section Binding

variable (base overlay : Option PaybondPolicyBinding)
variable (override : Option PaybondPolicyBindingOverride)

/-- The template the tenant names, if any. -/
def overlayTemplate : Option String :=
  (truthyStr (override.bind (·.templateId))).or (truthyStr (overlay.map (·.templateId)))

/-- The innermost layer that sets a field wins. -/
def mergedVersionSeq : Option Int :=
  ((override.bind (·.versionSeq)).or (overlay.bind (·.versionSeq))).or (base.bind (·.versionSeq))

def mergedHeadDigest : Option String :=
  ((override.bind (·.headDigest)).or (overlay.bind (·.headDigest))).or (base.bind (·.headDigest))

def checkTemplate : Merging Unit :=
  match base, overlayTemplate overlay override with
  | some base, some template =>
      denyIf (template ≠ base.templateId)
        "intent.policy_binding.template_id" "policy.cannot_change_org_template"
        (s!"tenant template_id \"{template}\" must match org template " ++
          s!"\"{base.templateId}\"")
  | _, _ => pure ()

def checkVersionSeq : Merging Unit :=
  match mergedVersionSeq base overlay override, base.bind (·.versionSeq) with
  | some versionSeq, some orgVersionSeq =>
      if versionSeq < orgVersionSeq then
        deny "intent.policy_binding.version_seq" "policy.cannot_downgrade_template_version"
          (s!"tenant version_seq ({versionSeq}) is older than org version_seq " ++
            s!"({orgVersionSeq})")
      else appliedIf (override.bind (·.versionSeq)).isSome "intent.policy_binding.version_seq"
  | _, _ => pure ()

def checkHeadDigest : Merging Unit :=
  match mergedHeadDigest base overlay override, truthyStr (base.bind (·.headDigest)) with
  | some headDigest, some orgHeadDigest =>
      if headDigest ≠ orgHeadDigest then
        deny "intent.policy_binding.head_digest" "policy.cannot_change_org_head_digest"
          "tenant head_digest must match the org-pinned template head"
      else appliedIf (override.bind (·.headDigest)).isSome "intent.policy_binding.head_digest"
  | _, _ => appliedIf (override.bind (·.headDigest)).isSome "intent.policy_binding.head_digest"

/-- `_merge_policy_binding`. -/
def mergePolicyBinding : Merging (Option PaybondPolicyBinding) :=
  match (overlayTemplate overlay override).or (truthyStr (base.map (·.templateId))) with
  | none => pure none
  | some templateId => do
      checkTemplate base overlay override
      checkVersionSeq base overlay override
      checkHeadDigest base overlay override
      return some { templateId
                    versionSeq := mergedVersionSeq base overlay override
                    headDigest := mergedHeadDigest base overlay override }

end Binding

/-- `if layer: merged.update(layer)`. -/
def updateWith (merged : OrderedDict String PyValue) :
    Option (OrderedDict String PyValue) → OrderedDict String PyValue
  | none => merged
  | some layer => merged.update layer

/-- `a or b` for two optional mappings. -/
def orMapping (first second : Option (OrderedDict String PyValue)) :
    Option (OrderedDict String PyValue) :=
  match first with
  | some mapping => if mapping.items.isEmpty then second else some mapping
  | none => second

/-- `(mapping or {}).get(key)`, where a stored `None` counts as missing. -/
def lookupSet (mapping : Option (OrderedDict String PyValue)) (key : String) : Option PyValue :=
  match mapping.bind (·.get? key) with
  | some .none => none
  | found => found

section Budget

variable (floatRepr : PyFloat → String)
variable (base overlay override : Option (OrderedDict String PyValue))

/-- The layered budget, before the cap is looked at. -/
def layeredBudget : OrderedDict String PyValue :=
  updateWith (updateWith (updateWith .empty base) overlay) override

/-- The cap check. A parsed budget holds a number under `max_spend_usd`. -/
def exceedsBudgetCap (tenantMax orgMax : PyValue) : Bool :=
  match tenantMax.number?, orgMax.number? with
  | some tenant, some org => decide (org < tenant)
  | _, _ => false

/-- One tenant layer is compared with the cap: the override when there is one. -/
def checkBudgetCap : Merging Unit :=
  let noteOverride :=
    appliedIf (lookupSet override "max_spend_usd").isSome "intent.budget.max_spend_usd"
  match lookupSet base "max_spend_usd",
      lookupSet (orMapping override overlay) "max_spend_usd" with
  | some orgMax, some tenantMax =>
      if exceedsBudgetCap tenantMax orgMax then
        deny "intent.budget.max_spend_usd" "policy.cannot_raise_budget_cap"
          (s!"tenant max_spend_usd ({tenantMax.strNumber floatRepr}) exceeds org cap " ++
            s!"({orgMax.strNumber floatRepr})")
      else noteOverride
  | _, _ => noteOverride

/-- `_merge_budget`. -/
def mergeBudget : Merging (Option (OrderedDict String PyValue)) :=
  if (layeredBudget base overlay override).items.isEmpty then pure none
  else do
    checkBudgetCap floatRepr base overlay override
    return some (layeredBudget base overlay override)

end Budget

/-- `_intersect_allowed_tools`. -/
def intersectAllowedTools (orgAllowed tenantAllowed : Option (List String)) :
    Merging (Option (List String)) :=
  match orgAllowed, tenantAllowed with
  | _, none | _, some [] => pure orgAllowed
  | none, some tenant | some [], some tenant => pure (some tenant)
  | some org, some tenant => do
      let widened := tenant.filter (· ∉ org)
      denyIf (widened ≠ []) "intent.allowed_tools" "policy.cannot_widen_allowed_tools"
        ("tenant allowed_tools widens org allowlist: " ++ ", ".intercalate widened)
      let intersection := tenant.filter (· ∈ org)
      appliedIf (intersection.length ≠ tenant.length) "intent.allowed_tools"
      return some intersection

/-- `_merge_adapter_section`. -/
def mergeAdapterSection (base overlay override : Option PaybondPolicyAdapterSection) :
    Merging (Option PaybondPolicyAdapterSection) :=
  let flag := fun (adapter : Option PaybondPolicyAdapterSection) =>
    adapter.bind (·.denyProviderExecutedTools)
  let values := [flag base, flag overlay, flag override]
  if values.all (·.isNone) then pure none
  else do
    denyIf (flag base = some true ∧ (flag overlay = some false ∨ flag override = some false))
      "adapter.deny_provider_executed_tools" "policy.cannot_relax_provider_executed_deny"
      "tenant cannot disable org-required deny_provider_executed_tools"
    appliedIf (flag override).isSome "overrides.adapter.deny_provider_executed_tools"
    return some { denyProviderExecutedTools :=
                    some (mergeStricterDefaultDeny (values.map (·.getD false))) }

/-! ## Documents -/

/-- `_base_document_to_effective_v1`. -/
def baseDocumentToEffectiveV1 (document : PaybondPolicyDocument) : PaybondPolicyDocumentV1 where
  name := document.name
  defaultDeny := document.defaultDeny
  tools := document.tools
  intent := document.intent
  adapter := document.adapter

/-- The loop over `overlay.overrides.tools`. -/
def mergeOverrideTools (report : PolicyMergeReport)
    (tools : OrderedDict String PaybondPolicyToolEntry)
    (patches : List (String × PaybondPolicyToolOverrideEntry)) :
    Merging (OrderedDict String PaybondPolicyToolEntry) :=
  patches.foldlM (fun tools (item : String × PaybondPolicyToolOverrideEntry) =>
    match tools.get? item.1 with
    | none => do
        deny s!"overrides.tools.{item.1}" "policy.unknown_org_tool_override"
          s!"cannot override unknown org tool \"{item.1}\""
        return tools
    | some existing =>
        tools.set item.1 <$> mergeToolFields existing item.2 item.1 report)
    tools

/-- The loop over `overlay.tools`. -/
def appendOverlayTools (tools : OrderedDict String PaybondPolicyToolEntry)
    (entries : List (String × PaybondPolicyToolEntry)) :
    Merging (OrderedDict String PaybondPolicyToolEntry) :=
  entries.foldlM (fun tools (item : String × PaybondPolicyToolEntry) =>
    if tools.contains item.1 then do
      deny s!"tools.{item.1}" "policy.cannot_replace_org_tool"
        s!"tenant tools must append new entries; \"{item.1}\" already exists in org base"
      return tools
    else pure (tools.set item.1 item.2))
    tools

section Documents

variable (floatRepr : PyFloat → String)
variable (base : PaybondPolicyDocument) (overlay : PaybondPolicyDocumentV2)

def overrideIntent : Option PaybondPolicyIntentOverrideSection :=
  overlay.overrides.bind (·.intent)

/-- The tenant allowlist: the override's if it lists a tool, else the overlay's. -/
def tenantAllowedTools : Option (List String) :=
  ((overrideIntent overlay).map (·.allowedTools) |>.filter (· ≠ [])).or
    (overlay.intent.map (·.allowedTools) |>.filter (· ≠ []))

/-- The intent section of the effective document. -/
def mergeIntent (mergedAllowed : Option (List String)) :
    Merging (Option PaybondPolicyIntentSection) :=
  if overlay.intent.isNone && (overrideIntent overlay).isNone then
    pure (base.intent.map fun intent =>
      { intent with allowedTools := mergedAllowed.getD intent.allowedTools })
  else do
    let mergedBinding ← mergePolicyBinding (base.intent.bind (·.policyBinding))
      (overlay.intent.bind (·.policyBinding)) ((overrideIntent overlay).bind (·.policyBinding))
    let mergedBudget ← mergeBudget floatRepr (base.intent.bind (·.budget))
      (overlay.intent.bind (·.budget)) ((overrideIntent overlay).bind (·.budget))
    if mergedBinding.isSome || mergedBudget.isSome || !(mergedAllowed.getD []).isEmpty then
      return some { policyBinding := mergedBinding
                    budget := mergedBudget
                    allowedTools := mergedAllowed.getD [] }
    else return base.intent

/-- The catalogue check on the presets of the effective tools. -/
def checkApprovedPresets (options : PolicyMergeOptions)
    (tools : OrderedDict String PaybondPolicyToolEntry) : Merging Unit :=
  match options.approvedEvidencePresets with
  | none | some [] => pure ()
  | some approved =>
      tools.items.forM fun item =>
        match truthyStr item.2.evidencePreset,
            truthyStr ((base.tools.get? item.1).bind (·.evidencePreset)) with
        | some preset, some basePreset =>
            denyIf (item.2.sideEffecting ∧ preset ≠ basePreset ∧ preset ∉ approved)
              s!"tools.{item.1}.evidence_preset" "policy.evidence_preset_not_org_approved"
              s!"evidence preset \"{preset}\" is not in the org-approved catalog subset"
        | _, _ => pure ()

def initialReport (base : PaybondPolicyDocument) (overlay : PaybondPolicyDocumentV2)
    (parent : PaybondPolicyExtends) : PolicyMergeReport where
  orgPolicyId := parent.orgPolicyId
  orgId := parent.orgId
  basePolicyName := base.name
  overlayPolicyName := overlay.name

/-- The body of the merge, up to the check of the denial list. -/
def mergeLayers (options : PolicyMergeOptions) (report : PolicyMergeReport) :
    Merging PaybondPolicyDocumentV1 := do
  let effective := baseDocumentToEffectiveV1 base
  let overrideDeny := overlay.overrides.bind (·.defaultDeny)
  appliedIf overrideDeny.isSome "overrides.default_deny"
  let defaultDeny := mergeStricterDefaultDeny
    ([base.defaultDeny, overlay.defaultDeny] ++ overrideDeny.toList)
  let patches := (overlay.overrides.bind (·.tools)).elim [] (·.items)
  let patched ← mergeOverrideTools report effective.tools patches
  let mergedTools ← appendOverlayTools patched overlay.tools.items
  let mergedAllowed ← intersectAllowedTools (base.intent.map (·.allowedTools))
    (tenantAllowedTools overlay)
  let intent ← mergeIntent floatRepr base overlay mergedAllowed
  let adapter ← mergeAdapterSection base.adapter overlay.adapter
    (overlay.overrides.bind (·.adapter))
  checkApprovedPresets base options mergedTools
  return { name := overlay.name, defaultDeny, tools := mergedTools, intent, adapter }

/-- `merge_paybond_policies`. -/
def mergePaybondPolicies (options : PolicyMergeOptions) : Parsed PolicyMergeResult :=
  match overlay.extends with
  | none => .error { message := "merge requires a tenant overlay document with extends",
                     path := "extends" }
  | some parent =>
      let report := initialReport base overlay parent
      let merged := mergeLayers floatRepr base overlay options report
      if merged.denied.isEmpty then
        .ok { effective := merged.value
              report := { report with overridesApplied := merged.overridesApplied } }
      else
        .error { message := "; ".intercalate
                   (merged.denied.map fun item => s!"{item.path}: {item.message}") }

end Documents

/-- A flat document, unless it is an overlay that still waits for its base. -/
def toEffectivePolicyDocument : PaybondPolicyDocument → Parsed PaybondPolicyDocumentV1
  | .v1 document => .ok (baseDocumentToEffectiveV1 (.v1 document))
  | .v2 document =>
      if isPaybondPolicyOverlay document then
        .error { message := "tenant overlay requires merge with an org base policy before use"
                 path := "extends" }
      else .ok (baseDocumentToEffectiveV1 (.v2 document))

end PaybondKit.Policy
