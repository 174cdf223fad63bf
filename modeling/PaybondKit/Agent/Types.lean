import PaybondKit.Policy.Schema

/-!
# Shared types of the agent middleware

The records that the interceptor, the spend guard and policy reload exchange, and
the exceptions they raise. Identifiers are the strings the code prints them as.
-/

namespace PaybondKit.Agent

open Policy

/-- The fields of Harbor's answer to a capability check that the middleware reads. -/
structure VerifyCapabilityResult where
  allow : Bool
  auditId : String
  code : Option String := none
  message : Option String := none
  decisionId : Option String := none
  reasonCodes : List String := []
  deriving DecidableEq, Repr

def approvalReasonCodes : List String :=
  ["approval_threshold_exceeded", "approval_required_pending", "approval_quorum_incomplete",
    "anomaly_new_vendor", "anomaly_amount_spike", "anomaly_rapid_auth", "anomaly_cap_proximity"]

def VerifyCapabilityResult.approvalRequired (result : VerifyCapabilityResult) : Bool :=
  result.code = some "approval_required" || approvalReasonCodes.any (· ∈ result.reasonCodes)

/-- The keyword arguments of `assert_spend_authorized`. -/
structure SpendRequest where
  operation : String
  requestedSpendCents : Int := 0
  vendorId : Option String := none
  taskId : Option String := none
  workflowId : Option String := none
  toolCallId : Option String := none
  toolName : Option String := none
  currency : Option String := none
  agentSubject : Option String := none
  approvalToken : Option String := none
  idempotencyKey : Option String := none
  modelFamily : Option String := none
  configHashHex : Option String := none
  promptHashHex : Option String := none
  deriving DecidableEq, Repr

inductive SpendOutcome where
  | consumed
  | released
  deriving DecidableEq, Repr

/-- The exceptions that the modelled code raises or tells apart. Only `cancelled` is
no `Exception`. -/
inductive PyExc where
  | cancelled
  | valueError (message : String)
  | runtimeError (message : String)
  | policyValidation (failure : PaybondPolicyValidationError)
  | toolRegistryValidation (message : String)
  | unregisteredSideEffectingTool (toolName operation : String)
  | spendDenied (result : VerifyCapabilityResult)
  | spendApprovalRequired (result : VerifyCapabilityResult)
  | evidenceSubmit (message : String) (toolResult : PyValue)
  | policyReload (code message : String)
  | policyReloadUnchanged
  | other (name message : String)
  deriving Repr

/-- `result.message or result.code or fallback`. -/
def resultReason (result : VerifyCapabilityResult) (fallback : String) : String :=
  ((truthyStr result.message).or (truthyStr result.code)).getD fallback

namespace PyExc

/-- Caught by `except Exception`. -/
def isException : PyExc → Bool
  | .cancelled => false
  | _ => true

/-- Caught by `except RuntimeError`. -/
def isRuntimeError : PyExc → Bool
  | .runtimeError _ | .unregisteredSideEffectingTool _ _ | .spendDenied _
  | .spendApprovalRequired _ | .evidenceSubmit _ _ | .policyReload _ _ => true
  | _ => false

/-- `str(exc)`. -/
def str : PyExc → String
  | .cancelled | .policyReloadUnchanged => ""
  | .valueError message | .runtimeError message | .toolRegistryValidation message
  | .evidenceSubmit message _ | .policyReload _ message | .other _ message => message
  | .policyValidation failure => failure.message
  | .unregisteredSideEffectingTool toolName operation =>
      s!"side-effecting tool \"{toolName}\" (operation \"{operation}\") " ++
        "is in intent allowedTools but not registered"
  | .spendDenied result =>
      "Paybond spend authorization denied: " ++ resultReason result "denied"
  | .spendApprovalRequired result =>
      "Paybond spend authorization requires approval: " ++
        resultReason result "approval_required"

end PyExc

/-- A function that the host passed in; the model only knows which one it is. -/
structure Callback where
  id : ℕ
  deriving DecidableEq, Repr

/-- The spend rule of a registry entry: `int | PaybondSpendResolver`. A policy's
resolver reads a JSON path from the call's arguments. -/
inductive SpendRule where
  | cents (value : Int)
  | jsonPath (path toolName : String)
  | resolver (callback : Callback)
  deriving DecidableEq, Repr

structure PaybondSideEffectingToolPolicy where
  operation : Option String := none
  spendCents : Option SpendRule := none
  evidencePreset : Option String := none
  evidenceMapper : Option Callback := none
  externalAttestationMapper : Option Callback := none
  deriving DecidableEq, Repr

structure PaybondToolRegistryConfig where
  sideEffecting : OrderedDict String PaybondSideEffectingToolPolicy := .empty
  defaultDeny : Bool := false

structure PaybondSideEffectingToolEntry where
  toolName : String
  operation : String
  evidencePreset : String
  spendCents : Option SpendRule := none
  evidenceMapper : Option Callback := none
  externalAttestationMapper : Option Callback := none
  deriving DecidableEq, Repr

inductive PaybondToolResolution where
  | passthrough (toolName : String)
  | sideEffecting (toolName operation : String) (entry : PaybondSideEffectingToolEntry)
  | denied (toolName operation : String)
  deriving DecidableEq, Repr

structure PaybondToolCallContext where
  toolName : String
  toolCallId : String
  operation : String
  arguments : PyValue

structure PaybondRunSandboxBinding where
  operation : String
  requestedSpendCents : Int
  sandboxLifecycleStatus : String
  deriving DecidableEq, Repr

/-- The credentials without their secrets, which only the signing functions read. -/
structure PaybondRunProductionEvidenceCredentials where
  payeeDid : String
  agentRecognitionKeyId : String
  deriving DecidableEq, Repr

structure PaybondRunAgentContext where
  modelFamily : String
  modelInstanceId : Option String := none
  configHashHex : Option String := none
  promptHashHex : Option String := none
  principalDid : Option String := none
  operatorDid : Option String := none
  policyTemplateId : Option String := none
  deriving DecidableEq, Repr

/-- The part of a run binding that no reload changes. The registry and the policy
snapshot are swapped in place and belong to the shared state. -/
structure PaybondRunBinding where
  runId : String
  tenantId : String
  intentId : String
  allowedTools : List String
  sandbox : Option PaybondRunSandboxBinding := none
  productionEvidence : Option PaybondRunProductionEvidenceCredentials := none
  agentContext : Option PaybondRunAgentContext := none
  policyFilePath : Option String := none
  deriving DecidableEq, Repr

/-- The trace events, without the `recorded_at` stamp that `_emit_trace` adds. -/
inductive TraceEvent where
  | toolSelected (runId toolName toolCallId operation : String)
  | approvalRequired (runId toolCallId operation message : String) (auditId code : Option String)
  | spendDenied (runId toolCallId operation message : String) (auditId code : Option String)
  | spendAuthorized (runId toolCallId operation auditId : String) (decisionId : Option String)
      (amountCents : Option Int)
  | toolExecuted (runId toolCallId operation : String) (durationMs : ℕ)
  | spendFinalized (runId toolCallId operation : String) (status : SpendOutcome)
  | evidenceSubmitted (runId toolCallId operation evidenceId evidencePreset : String)
      (reportedCostCents : Option Int) (sandboxLifecycleStatus : Option String)
      (predicatePassed : Option Bool) (externalAttestations : List PyValue)

inductive PaybondToolInputGuardDecision where
  | allow (passthrough : Bool) (operation : String) (auditId decisionId policyDigest :
      Option String)
  | deny (operation message : String) (auditId code : Option String)
  | approvalRequired (operation message : String) (auditId code : Option String)
  deriving DecidableEq, Repr

end PaybondKit.Agent
