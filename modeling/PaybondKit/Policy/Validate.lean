import PaybondKit.Policy.Registry

/-!
# Client-side policy validation

The alignment checks that a reload runs before it asks the gateway.
-/

namespace PaybondKit.Policy

open Agent

structure PolicyValidatorError where
  path : String
  code : String
  message : String
  deriving DecidableEq, Repr

structure PolicyValidatorToolCounts where
  sideEffecting : ℕ
  readOnly : ℕ
  deriving DecidableEq, Repr

structure PolicyValidatorResult where
  valid : Bool
  policyName : Option String
  tools : PolicyValidatorToolCounts
  errors : List PolicyValidatorError
  deriving DecidableEq, Repr

def countTools (document : PaybondPolicyDocumentV1) : PolicyValidatorToolCounts where
  sideEffecting := document.tools.values.countP (·.sideEffecting)
  readOnly := document.tools.values.countP (!·.sideEffecting)

section Checks

variable (catalog : CompletionCatalog)

def validatePresetReference (toolName presetId : String) : List PolicyValidatorError :=
  if presetId ∈ catalog.listCompletionPresetIds then []
  else
    [{ path := s!"tools.{toolName}.evidence_preset"
       code := "policy.unknown_evidence_preset"
       message := s!"unknown completion preset: {presetId}" }]

def validateVendorPackReference (toolName vendorPackId : String) : List PolicyValidatorError :=
  match catalog.getCompletionPreset vendorPackId with
  | none =>
      [{ path := s!"tools.{toolName}.vendor_pack"
         code := "policy.unknown_vendor_pack"
         message := s!"unknown vendor pack preset: {vendorPackId}" }]
  | some preset =>
      if isVendorPack preset then []
      else
        [{ path := s!"tools.{toolName}.vendor_pack"
           code := "policy.invalid_vendor_pack"
           message := s!"preset {vendorPackId} is not a vendor_pack entry" }]

def validateToolEntry (toolName : String) (entry : PaybondPolicyToolEntry) :
    List PolicyValidatorError :=
  (match truthyStr entry.evidencePreset with
    | some presetId => validatePresetReference catalog toolName presetId
    | none =>
        if entry.sideEffecting then
          [{ path := s!"tools.{toolName}.evidence_preset"
             code := "policy.missing_evidence_preset"
             message := "side-effecting tools must declare evidence_preset" }]
        else []) ++
  match truthyStr entry.vendorPack with
  | some vendorPackId => validateVendorPackReference catalog toolName vendorPackId
  | none => []

def validateToolEntries (document : PaybondPolicyDocumentV1) : List PolicyValidatorError :=
  document.tools.items.flatMap fun item => validateToolEntry catalog item.1 item.2

def validateIntentAlignment (document : PaybondPolicyDocumentV1) (strict : Bool) :
    List PolicyValidatorError :=
  let allowed := (document.intent.map (·.allowedTools)).getD []
  if allowed.isEmpty then []
  else
    ((allowed.filter (!document.tools.contains ·)).map fun toolName =>
      { path := "intent.allowed_tools"
        code := "policy.allowed_tool_not_registered"
        message := s!"allowed tool \"{toolName}\" is not declared in tools" }) ++
    if strict && document.defaultDeny then
      (document.tools.items.filter fun item =>
          item.2.sideEffecting && item.1 ∉ allowed).map fun item =>
        { path := s!"tools.{item.1}"
          code := "policy.side_effecting_not_allowed"
          message := s!"side-effecting tool \"{item.1}\" is missing from " ++
            "intent.allowed_tools (default_deny is true)" }
    else []

/-- `PolicyValidator.validate_document`, without a gateway. -/
def validateDocument (document : PaybondPolicyDocumentV1) (strict : Bool) :
    PolicyValidatorResult :=
  let errors := validateToolEntries catalog document ++ validateIntentAlignment document strict
  { valid := errors.isEmpty
    policyName := some document.name
    tools := countTools document
    errors }

end Checks

end PaybondKit.Policy
