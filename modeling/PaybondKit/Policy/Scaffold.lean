import Mathlib.Data.List.Infix
import PaybondKit.Policy.PrintedLines

/-!
# Scaffolded policy files

`paybond policy init` prints starter policies: the operation, the policy id, the evidence preset
and the spend cap are set unquoted into a template.
-/

namespace PaybondKit.Policy

open Agent (PyExc)

/-! ## Options -/

structure ScaffoldPaybondPolicyOptions where
  operation : String
  evidencePreset : String

structure ScaffoldOrgBasePolicyOptions where
  policyId : String
  operation : String
  evidencePreset : String
  maxSpendCents : Option Int := none

structure ScaffoldTenantOverlayPolicyOptions where
  extendsRef : String
  name : Option String := none
  operation : Option String := none
  evidencePreset : Option String := none
  basePolicy : Option String := none

/-- What `str.lower` and `str.isalnum` do, with what they, `int` and `json.loads` document for the
texts that the templates are made of. -/
structure ScaffoldPlatform extends PolicyTextPlatform where
  lower : String → String
  isAlnum : Char → Bool
  lower_ascii : ∀ text : String, (∀ c ∈ text.toList, c.toNat < 128) →
    lower text = String.ofList (text.toList.map Char.toLower)
  isAlnum_ascii : ∀ c : Char, c.toNat < 128 → isAlnum c = c.isAlphanum
  digits : AsciiDigits toTextPlatform
  jsonRaises_version : ∀ text : String, text.toList.head? = some 'v' → jsonRaises text = none

def scaffoldError (message : String) : PyExc := .policyValidation { message }

/-! ## The catalog -/

/-- The presets of the bundled catalog with their `harbor_template_id`. -/
def completionTemplates : List (String × String) :=
  [("api_response_ok", "api_response_v1"),
    ("webhook_confirmed", "webhook_confirmation_v1"),
    ("artifact_attested", "artifact_hash_v1"),
    ("cost_and_completion", "completion_budget_v1"),
    ("sandbox_permissive", "true_v1"),
    ("stripe_charge", "api_response_v1"),
    ("vendor_webhook_confirmed", "webhook_confirmation_v1"),
    ("stripe_webhook_payment", "webhook_confirmation_v1"),
    ("ach_paid_api_ok", "api_response_v1"),
    ("ach_travel_booking", "completion_budget_v1"),
    ("ach_vendor_webhook", "webhook_confirmation_v1"),
    ("x402_paid_api_ok", "api_response_v1"),
    ("x402_delivery_receipt", "artifact_hash_v1"),
    ("x402_cost_and_completion", "completion_budget_v1"),
    ("x402_saas_api_purchase", "api_response_v1"),
    ("x402_travel_booking", "completion_budget_v1"),
    ("invoice_payment_confirmed", "webhook_confirmation_v1")]

/-- `get_completion_preset(preset_id)["harbor_template_id"]`. -/
def harborTemplateId (presetId : String) : Except PyExc String :=
  match completionTemplates.lookup presetId with
  | some templateId => .ok templateId
  | none => .error (.valueError s!"unknown completion preset: {presetId}")

/-- `_template_id_stub_for_preset`. -/
def templateIdStubForPreset (presetId : String) : String :=
  match harborTemplateId presetId with
  | .ok templateId => templateId
  | .error _ => "completion_v1"

/-! ## Names -/

/-- `^[a-z][a-z0-9-]*$`. -/
def scaffoldPolicyNameRe (name : String) : Bool :=
  matchesHeadTail isLower (fun c => isLower c || isDigit c || c = '-') name.length name.toList

/-- `^org_[a-z][a-z0-9_]*$`. -/
def scaffoldOrgIdRe (orgId : String) : Bool :=
  orgId.toList.take 4 = "org_".toList &&
    matchesHeadTail isLower (fun c => isLower c || isDigit c || c = '_') orgId.length
      (orgId.toList.drop 4)

def parsePolicyExtendsRef (ref : String) : Except PyExc (String × String) := do
  match (pyStrip ref).toList.span (· ≠ '/') with
  | (orgId, '/' :: orgPolicyId) =>
      let orgId := String.ofList orgId
      let orgPolicyId := String.ofList orgPolicyId
      raiseIf (orgId = "" ∨ orgPolicyId = "") (scaffoldError
        "extends must be org_id/org_policy_id (example: org_acme_corp/acme-agent-spend-v1)")
      raiseIf (scaffoldOrgIdRe orgId = false)
        (scaffoldError s!"org_id must match org_<snake_case>: {orgId}")
      raiseIf (scaffoldPolicyNameRe orgPolicyId = false)
        (scaffoldError s!"org_policy_id must be a lowercase policy name: {orgPolicyId}")
      return (orgId, orgPolicyId)
  | _ =>
      throw (scaffoldError
        "extends must be org_id/org_policy_id (example: org_acme_corp/acme-agent-spend-v1)")

/-- A text that is left out, empty or blank is not given. -/
def strippedOption (text : Option String) : Option String := truthyStr (text.map pyStrip)

def overlayNameFromPolicyId (orgPolicyId : String) (explicit : Option String) : String :=
  match strippedOption explicit with
  | some name => name
  | none =>
      if "-overlay-v1".toList.isSuffixOf orgPolicyId.toList then orgPolicyId
      else s!"{orgPolicyId}-overlay-v1"

/-- `slug.replace("--", "-")`. -/
def replaceDashes : List Char → List Char
  | [] => []
  | '-' :: '-' :: rest => '-' :: replaceDashes rest
  | c :: rest => c :: replaceDashes rest

theorem length_replaceDashes_le (chars : List Char) : (replaceDashes chars).length ≤ chars.length := by
  induction chars using replaceDashes.induct with
  | case1 => exact le_refl _
  | case2 rest ih =>
      rw [replaceDashes, List.length_cons, List.length_cons, List.length_cons]
      omega
  | case3 c rest hnot ih =>
      rw [replaceDashes.eq_3 _ _ hnot, List.length_cons, List.length_cons]
      omega

/-- A pass over a text with two dashes in a row makes it shorter. -/
theorem length_replaceDashes_lt {chars : List Char} (hdashes : ['-', '-'] <:+: chars) :
    (replaceDashes chars).length < chars.length := by
  induction chars using replaceDashes.induct with
  | case1 => exact absurd hdashes (by decide)
  | case2 rest ih =>
      have hrest := length_replaceDashes_le rest
      rw [replaceDashes, List.length_cons, List.length_cons, List.length_cons]
      omega
  | case3 c rest hnot ih =>
      rw [replaceDashes.eq_3 _ _ hnot, List.length_cons, List.length_cons]
      rcases List.infix_cons_iff.mp hdashes with hprefix | hinside
      · obtain ⟨hc, tail, rfl⟩ := List.cons_prefix_cons.mp hprefix
        exact (hnot tail hc.symm rfl).elim
      · exact Nat.succ_lt_succ (ih hinside)

/-- `while "--" in slug`. -/
def collapseDashes (chars : List Char) : List Char :=
  if ['-', '-'] <:+: chars then collapseDashes (replaceDashes chars) else chars
termination_by chars.length
decreasing_by exact length_replaceDashes_lt ‹_›

def policyNameFromOperation (platform : ScaffoldPlatform) (operation : String) : String :=
  let lowered := (platform.lower (pyStrip operation)).toList
  let dashed := lowered.map fun c => if c = '.' ∨ c = '_' then '-' else c
  let kept := dashed.map fun c => if platform.isAlnum c || c = '-' then c else '-'
  let stripped := ((collapseDashes kept).dropWhile (· = '-')).rdropWhile (· = '-')
  let slug := if stripped = [] then "agent" else String.ofList stripped
  if "-v1".toList.isSuffixOf slug.toList then slug else s!"{slug}-v1"

/-! ## Templates -/

/-- The lines of a tool, with the line of the cap behind that of the preset. -/
def toolLines (operation evidencePreset : String) (capLines : List String) : List String :=
  ["tools:",
    s!"  {operation}:",
    "    side_effecting: true",
    s!"    evidence_preset: {evidencePreset}"] ++
    capLines ++
    [s!"    operation: {operation}"]

def intentLines (operation templateId : String) : List String :=
  ["intent:",
    "  # Production: publish template head, then " ++
      "paybond.intents.create_with_policy_binding(policy.to_intent_create_input(...))",
    "  policy_binding:",
    s!"    template_id: {templateId}",
    "  allowed_tools:",
    s!"    - {operation}"]

def renderPaybondPolicyYaml (platform : ScaffoldPlatform) (options : ScaffoldPaybondPolicyOptions) :
    Except PyExc String := do
  let operation := pyStrip options.operation
  let evidencePreset := pyStrip options.evidencePreset
  raiseIf (operation = "") (scaffoldError "operation is required")
  raiseIf (evidencePreset = "") (scaffoldError "evidence preset is required")
  let _ ← harborTemplateId evidencePreset
  let name := policyNameFromOperation platform operation
  let templateId := templateIdStubForPreset evidencePreset
  return unlines (["version: 1", s!"name: {name}", "default_deny: true", ""] ++
    toolLines operation evidencePreset [] ++ [""] ++ intentLines operation templateId)

def renderOrgBasePolicyYaml (options : ScaffoldOrgBasePolicyOptions) : Except PyExc String := do
  let policyId := pyStrip options.policyId
  let operation := pyStrip options.operation
  let evidencePreset := pyStrip options.evidencePreset
  raiseIf (policyId = "") (scaffoldError "policy_id is required")
  raiseIf (scaffoldPolicyNameRe policyId = false)
    (scaffoldError "policy_id must be a lowercase policy name")
  raiseIf (operation = "") (scaffoldError "operation is required")
  raiseIf (evidencePreset = "") (scaffoldError "evidence preset is required")
  let _ ← harborTemplateId evidencePreset
  let templateId := templateIdStubForPreset evidencePreset
  let maxSpendLine := options.maxSpendCents.toList.map fun cap => s!"    max_spend_cents: {cap}"
  return unlines (["version: 2", s!"name: {policyId}", "default_deny: true", ""] ++
    toolLines operation evidencePreset maxSpendLine ++ [""] ++ intentLines operation templateId)

def renderTenantOverlayPolicyYaml (options : ScaffoldTenantOverlayPolicyOptions) :
    Except PyExc String := do
  let (orgId, orgPolicyId) ← parsePolicyExtendsRef options.extendsRef
  let name := overlayNameFromPolicyId orgPolicyId options.name
  raiseIf (scaffoldPolicyNameRe name = false)
    (scaffoldError "overlay name must be a lowercase policy name")
  let operation := strippedOption options.operation
  let evidencePreset := strippedOption options.evidencePreset
  raiseIf (operation.isSome ∧ evidencePreset.isNone)
    (scaffoldError "tenant-only tool requires --evidence-preset")
  raiseIf (evidencePreset.isSome ∧ operation.isNone)
    (scaffoldError "--evidence-preset requires --operation for tenant-only tools")
  let _ ← evidencePreset.mapM harborTemplateId
  let basePolicyLine := (strippedOption options.basePolicy).toList.map fun basePolicy =>
    s!"  base_policy: {basePolicy}"
  let toolsBlock := match operation, evidencePreset with
    | some operation, some evidencePreset => toolLines operation evidencePreset []
    | _, _ => []
  return unlines (["version: 2", s!"name: {name}", "extends:",
    s!"  org_policy_id: {orgPolicyId}", s!"  org_id: {orgId}"] ++ basePolicyLine ++
    ["default_deny: true", ""] ++ toolsBlock)

end PaybondKit.Policy
