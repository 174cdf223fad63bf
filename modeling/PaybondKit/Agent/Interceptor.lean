import PaybondKit.Agent.Receipt
import PaybondKit.Agent.SpendGuard

/-!
# The tool interceptor

`authorize_tool_call` asks Harbor ahead of an execution and caches the answer.
`wrap_execute` uses a cached authorization or asks itself, runs the handler,
finalizes the reservation and submits evidence. Both resolve the tool in the
registry that is bound when they start.
-/

namespace PaybondKit.Agent

open Coroutine

/-- The keyword arguments that `authorize_tool_call` and `wrap_execute` share. -/
structure ToolCallInput where
  toolName : String
  toolCallId : String
  arguments : PyValue := .dict []
  operation : Option String := none
  requestedSpendCents : Option Int := none
  vendorId : Option String := none
  taskId : Option String := none
  workflowId : Option String := none
  currency : Option String := none
  agentSubject : Option String := none
  approvalToken : Option String := none
  idempotencyKey : Option String := none

structure ResolvedCall where
  operation : String
  requestedSpendCents : Option Int
  entry : PaybondSideEffectingToolEntry
  authKwargs : SpendRequest

structure PaybondInterceptWrapExecuteResult where
  toolResult : PyValue
  authorization : Option AuthorizationReport := none
  evidence : Option PaybondInterceptEvidenceResult := none
  receiptDraft : Option AgentReceiptDraft := none

section Resolve

variable (binding : PaybondRunBinding)

/-- `resolve_spend_cents` of the registry. -/
def resolveSpendCents (registry : PaybondToolRegistry) (toolName : String)
    (arguments : PyValue) : Routine (Option Int) :=
  match (registry.sideEffecting.get? toolName).bind (·.spendCents) with
  | none => return none
  | some (.cents value) => return some value
  | some (.jsonPath path tool) => ofExcept (resolveSpendCentsFromJsonPath arguments path tool)
  | some (.resolver callback) => host (.resolveSpendCents callback arguments)

def assertOperationAllowed (operation : String) : Routine Unit :=
  if operation ∈ binding.allowedTools then return ()
  else
    raise (.runtimeError (s!"operation \"{operation}\" is not in bound intent allowedTools (" ++
      ", ".intercalate binding.allowedTools ++ ")"))

/-- A sandbox bounds the requested spend. -/
def boundBySandbox (spendCents : Option Int) : Option Int :=
  match binding.sandbox with
  | none => spendCents
  | some sandbox =>
      match spendCents with
      | none => some sandbox.requestedSpendCents
      | some cents => some (min cents sandbox.requestedSpendCents)

def buildAuthKwargs (toolName toolCallId : String) (input : ToolCallInput) (operation : String)
    (spendCents : Option Int) : SpendRequest where
  operation := operation
  requestedSpendCents := spendCents.getD 0
  vendorId := input.vendorId
  taskId := input.taskId
  workflowId := input.workflowId
  toolCallId := some toolCallId
  toolName := some toolName
  currency := input.currency
  agentSubject := (truthyStr input.agentSubject).or (binding.agentContext.bind (·.operatorDid))
  approvalToken := input.approvalToken
  idempotencyKey := input.idempotencyKey
  modelFamily := binding.agentContext.map (·.modelFamily)
  configHashHex := binding.agentContext.bind (·.configHashHex)
  promptHashHex := binding.agentContext.bind (·.promptHashHex)

/-- `_resolve_side_effecting_call`. -/
def resolveSideEffectingCall (toolName toolCallId : String) (input : ToolCallInput)
    (entry : PaybondSideEffectingToolEntry) (defaultOperation : String) :
    Routine ResolvedCall := do
  let operation := pyStrip ((truthyStr input.operation).getD defaultOperation)
  assertOperationAllowed binding operation
  let spendCents ←
    match input.requestedSpendCents with
    | some cents => pure (some cents)
    | none => do
        let registry ← access .readRegistry
        resolveSpendCents registry toolName input.arguments
  let requestedSpendCents := boundBySandbox binding spendCents
  return { operation, requestedSpendCents, entry
           authKwargs := buildAuthKwargs binding toolName toolCallId input operation
             requestedSpendCents }

end Resolve

/-! ## Authorizing -/

section Authorize

variable (binding : PaybondRunBinding)

/-- What `_map_spend_error_to_decision` and the trace event take from a refusal. -/
def refusalMessage (exception : PyExc) (result : VerifyCapabilityResult) : String :=
  resultReason result exception.str

/-- The two handlers around the guard: the decision, after its trace event. -/
def decideRefusal (toolCallId operation : String) (exception : PyExc) :
    Routine PaybondToolInputGuardDecision :=
  match exception with
  | .spendApprovalRequired result => do
      let message := refusalMessage exception result
      host (.emitTrace (.approvalRequired binding.runId toolCallId operation
        ((truthyStr (some message)).getD "approval_required") (some result.auditId) result.code))
      return .approvalRequired operation message (some result.auditId) result.code
  | .spendDenied result => do
      let message := refusalMessage exception result
      host (.emitTrace (.spendDenied binding.runId toolCallId operation
        ((truthyStr (some message)).getD "denied") (some result.auditId) result.code))
      return .deny operation message (some result.auditId) result.code
  | _ => raise exception

/-- Keep the authorization for the execution to come. -/
def cacheAuthorization (toolName toolCallId : String) (resolved : ResolvedCall)
    (auth : VerifyCapabilityResult) (pinnedDigest : Option String) : Routine Unit := do
  let _ ← access .evictExpiredAuthorizationCache
  let cachedAt ← access .monotonicTime
  let authorizedAtMs ← access .timeMs
  access (.storeAuthorization (authorizationCacheKey toolCallId resolved.operation)
    { auth
      policyDigest := pinnedDigest
      operation := resolved.operation
      requestedSpendCents := resolved.requestedSpendCents
      toolName, cachedAt, authorizedAtMs })

def spendAuthorizedEvent (toolCallId : String) (resolved : ResolvedCall)
    (auth : VerifyCapabilityResult) : TraceEvent :=
  .spendAuthorized binding.runId toolCallId resolved.operation auth.auditId auth.decisionId
    resolved.requestedSpendCents

/-- The part of `authorize_tool_call` after the call is resolved. -/
def authorizeResolved (toolName toolCallId : String) (resolved : ResolvedCall)
    (pinnedDigest : Option String) : Routine PaybondToolInputGuardDecision := do
  host (.emitTrace (.toolSelected binding.runId toolName toolCallId resolved.operation))
  let answer ← tryExcept (Sum.inr <$> assertSpendAuthorized resolved.authKwargs)
    fun exception => Sum.inl <$> decideRefusal binding toolCallId resolved.operation exception
  match answer with
  | .inl decision => return decision
  | .inr auth => do
      cacheAuthorization toolName toolCallId resolved auth pinnedDigest
      host (.emitTrace (spendAuthorizedEvent binding toolCallId resolved auth))
      return .allow false resolved.operation (some auth.auditId) auth.decisionId pinnedDigest

/-- The `try` block of `authorize_tool_call`. -/
def authorizeInFlight (input : ToolCallInput) (pinnedDigest : Option String) :
    Routine PaybondToolInputGuardDecision := do
  let toolName := pyStrip input.toolName
  let toolCallId := pyStrip input.toolCallId
  let registry ← access .readRegistry
  match registry.resolveTool toolName (some binding.allowedTools) with
  | .passthrough _ => return .allow true toolName none none none
  | .denied deniedTool operation =>
      return .deny operation (PyExc.unregisteredSideEffectingTool deniedTool operation).str
        none none
  | .sideEffecting _ operation entry => do
      let resolution ← tryExcept
        (Sum.inr <$> resolveSideEffectingCall binding toolName toolCallId input entry operation)
        fun exception =>
          if exception.isRuntimeError then
            return Sum.inl (.deny operation exception.str none none)
          else raise exception
      match resolution with
      | .inl decision => return decision
      | .inr resolved => authorizeResolved binding toolName toolCallId resolved pinnedDigest

/-- `raise ValueError` for a blank tool name or tool call id. -/
@[irreducible] def requireToolCall (input : ToolCallInput) : Routine Unit :=
  if pyStrip input.toolName = "" then raise (.valueError "tool_name must be non-empty")
  else if pyStrip input.toolCallId = "" then raise (.valueError "tool_call_id must be non-empty")
  else return ()

def authorizeToolCall (input : ToolCallInput) : Routine PaybondToolInputGuardDecision := do
  requireToolCall input
  let pinnedDigest ← access .beginInFlight
  tryFinally (authorizeInFlight binding input pinnedDigest) (access .endInFlight)

end Authorize

/-! ## Executing -/

section Execute

variable (binding : PaybondRunBinding)

/-- The authorization that an execution runs under, and the digest it will report. -/
structure AuthorizedCall where
  auth : VerifyCapabilityResult
  authorizedAtMs : ℕ
  policyDigest : Option String

/-- Ask Harbor within the execution. -/
def authorizeFresh (toolCallId : String) (resolved : ResolvedCall)
    (pinnedDigest : Option String) : Routine AuthorizedCall := do
  let auth ← assertSpendAuthorized resolved.authKwargs
  let authorizedAtMs ← access .timeMs
  host (.emitTrace (spendAuthorizedEvent binding toolCallId resolved auth))
  return { auth, authorizedAtMs, policyDigest := pinnedDigest }

/-- Take the cached authorization, or ask Harbor. -/
def obtainAuthorization (toolName toolCallId : String) (resolved : ResolvedCall)
    (pinnedDigest : Option String) : Routine AuthorizedCall := do
  let cached ← access (.takeValidCachedAuthorization
    (authorizationCacheKey toolCallId resolved.operation)
    { operation := resolved.operation
      requestedSpendCents := resolved.requestedSpendCents
      toolName })
  match cached with
  | some entry =>
      return { auth := entry.auth
               authorizedAtMs := entry.authorizedAtMs
               policyDigest := (truthyStr entry.policyDigest).or pinnedDigest }
  | none => authorizeFresh binding toolCallId resolved pinnedDigest

/-- Request an outcome for the reservation and trace it. -/
def finalizeSpend (toolCallId operation : String) (outcome : SpendOutcome)
    (decisionId : String) : Routine Unit := do
  host (.completeSpend decisionId outcome)
  host (.emitTrace (.spendFinalized binding.runId toolCallId operation outcome))

/-- The handler, between reading the clocks and finalizing the reservation. -/
def executeAndFinalize (toolName toolCallId : String) (resolved : ResolvedCall)
    (decisionId : Option String) (executeStartedAt : ℕ) : Routine PyValue :=
  let body : Routine PyValue := do
    let toolResult ← maybeAwait (.intercepted toolCallId toolName resolved.operation
      resolved.requestedSpendCents)
    let executeEndedAt ← access .perfCounter
    host (.emitTrace (.toolExecuted binding.runId toolCallId resolved.operation
      ((executeEndedAt - executeStartedAt) / 1000000)))
    withDecision decisionId (finalizeSpend binding toolCallId resolved.operation .consumed)
    return toolResult
  releaseOnException decisionId body
    (finalizeSpend binding toolCallId resolved.operation .released)

/-- `_resolve_tool_external_attestations`. -/
def resolveToolExternalAttestations (entry : PaybondSideEffectingToolEntry)
    (toolResult : PyValue) (ctx : PaybondToolCallContext) : Routine (List PyValue) :=
  match entry.externalAttestationMapper with
  | none => return []
  | some mapper =>
      tryExcept (host (.mapExternalAttestations mapper toolResult ctx)) fun exception =>
        if exception.isException then return [] else raise exception

end Execute

/-! ## Evidence -/

section Evidence

variable (platform : Platform) (binding : PaybondRunBinding)

/-- `_parse_agent_receipt_compose_result`. -/
def parseAgentReceiptComposeResult (value : PyValue) : Option AgentReceiptComposeResult :=
  match value.getItem "compose_status" with
  | .str composeStatus =>
      if composeStatus = "composed" ∨ composeStatus = "failed" then
        some { composeStatus
               receiptId := (value.getItem "receipt_id").asStr
               scope := (value.getItem "scope").asStr
               warningCode := (value.getItem "warning_code").asStr
               warningMessage := (value.getItem "warning_message").asStr }
      else none
  | _ => none

/-- `digest.strip().lower() or None`. -/
def normalizeDigest (digest : String) : Option String :=
  truthyStr (some (platform.lower (pyStrip digest)))

def evidenceIdempotencyKey (toolCallId : String) : String :=
  s!"evidence:{binding.intentId}:{toolCallId}"

def sandboxEvidence (result : SandboxEvidenceResult) : PaybondInterceptEvidenceResult where
  intentId := result.intentId
  predicatePassed := result.predicatePassed
  sandboxLifecycleStatus := result.sandboxLifecycleStatus
  payloadDigestSha256Hex := result.payloadDigest.bind (normalizeDigest platform)
  artifactsDigestSha256Hex := result.artifactsDigest.bind (normalizeDigest platform)
  agentReceipt := parseAgentReceiptComposeResult result.agentReceipt
  agentReceiptIntentTerminal := parseAgentReceiptComposeResult result.agentReceiptIntentTerminal

def productionEvidence (result : PyValue) : PaybondInterceptEvidenceResult where
  intentId := binding.intentId
  intentState :=
    let state := result.getItem "intent_state"
    match if state.truthy then state else result.getItem "state" with
    | .none => none
    | value => some (platform.pyStr value)
  predicatePassed :=
    match result.getItem "predicate_passed" with
    | .bool value => some value
    | _ => none
  payloadDigestSha256Hex :=
    (result.getItem "payload_digest").asStr.bind (normalizeDigest platform)
  artifactsDigestSha256Hex :=
    (result.getItem "artifacts_digest").asStr.bind (normalizeDigest platform)
  agentReceipt := parseAgentReceiptComposeResult (result.getItem "agent_receipt")
  agentReceiptIntentTerminal :=
    parseAgentReceiptComposeResult (result.getItem "agent_receipt_intent_terminal")

def submitEvidence (entry : PaybondSideEffectingToolEntry) (ctx : PaybondToolCallContext)
    (requestedSpendCents : Option Int) (auth : VerifyCapabilityResult) (payload : PyValue) :
    Routine PaybondInterceptEvidenceResult :=
  let idempotencyKey := evidenceIdempotencyKey binding ctx.toolCallId
  match binding.sandbox with
  | some _ => do
      let result ← host (.submitSandboxEvidence binding.intentId payload ctx.operation
        requestedSpendCents
        [("tool_name", .str ctx.toolName), ("tool_call_id", .str ctx.toolCallId),
          ("evidence_preset", .str entry.evidencePreset),
          ("decision_id", auth.decisionId.elim .none .str)]
        idempotencyKey)
      return sandboxEvidence platform result
  | none =>
      match binding.productionEvidence with
      | none =>
          raise (.runtimeError ("production agent run bind requires " ++
            "attach.production_evidence for auto-evidence submission"))
      | some _ => do
          let wire ← host (.signEvidence binding.intentId payload)
          let result ← host (.submitEvidence binding.intentId wire idempotencyKey)
          return productionEvidence platform binding result

/-- `_submit_auto_evidence`: every `Exception` becomes an evidence error that carries
the tool's result. -/
def submitAutoEvidence (entry : PaybondSideEffectingToolEntry) (ctx : PaybondToolCallContext)
    (requestedSpendCents : Option Int) (toolResult : PyValue) (auth : VerifyCapabilityResult) :
    Routine PaybondInterceptEvidenceResult := do
  let payload ← tryExcept (host (.buildEvidencePayload entry toolResult ctx)) fun exception =>
    if exception.isException then raise (.evidenceSubmit exception.str toolResult)
    else raise exception
  tryExcept (submitEvidence platform binding entry ctx requestedSpendCents auth payload)
    fun exception =>
      match exception with
      | .evidenceSubmit _ _ => raise exception
      | _ =>
          if exception.isException then
            raise (.evidenceSubmit
              ((truthyStr (some exception.str)).getD "auto-evidence submission failed")
              toolResult)
          else raise exception

/-- The cost a tool reports in its result. -/
def reportedCostCents (toolResult : PyValue) : Option Int :=
  match toolResult.getItem "cost_cents" with
  | .int value => some value
  | _ => none

/-- What follows a finalized execution: attestations, evidence and the report. -/
def reportExecution (toolName toolCallId : String) (input : ToolCallInput)
    (resolved : ResolvedCall) (authorized : AuthorizedCall) (executeStartedAtMs : ℕ)
    (toolResult : PyValue) : Routine PaybondInterceptWrapExecuteResult := do
  let ctx : PaybondToolCallContext :=
    { toolName, toolCallId, operation := resolved.operation, arguments := input.arguments }
  let externalAttestations ← resolveToolExternalAttestations resolved.entry toolResult ctx
  let evidence ← submitAutoEvidence platform binding resolved.entry ctx
    resolved.requestedSpendCents toolResult authorized.auth
  host (.emitTrace (.evidenceSubmitted binding.runId toolCallId resolved.operation
    (evidenceIdempotencyKey binding toolCallId) resolved.entry.evidencePreset
    (reportedCostCents toolResult) evidence.sandboxLifecycleStatus evidence.predicatePassed
    externalAttestations))
  let receiptDraft ← buildReceiptDraft platform binding
    { toolName, toolCallId
      operation := resolved.operation
      arguments := input.arguments
      agentSubject := resolved.authKwargs.agentSubject
      requestedSpendCents := resolved.requestedSpendCents
      currency := resolved.authKwargs.currency
      vendorId := resolved.authKwargs.vendorId
      entry := resolved.entry
      auth := authorized.auth
      authorizedAtMs := authorized.authorizedAtMs
      policyDigest := authorized.policyDigest
      executeStartedAtMs, toolResult, evidence, externalAttestations }
  return { toolResult
           authorization := some
             { auditId := authorized.auth.auditId
               decisionId := authorized.auth.decisionId
               policyDigest := authorized.policyDigest }
           evidence := some evidence
           receiptDraft }

end Evidence

/-! ## The interceptor's second method -/

section WrapExecute

variable (platform : Platform) (binding : PaybondRunBinding)

/-- `wrap_execute` from the resolved entry on. -/
def wrapSideEffecting (toolName toolCallId : String) (input : ToolCallInput)
    (entry : PaybondSideEffectingToolEntry) (defaultOperation : String)
    (pinnedDigest : Option String) : Routine PaybondInterceptWrapExecuteResult := do
  let resolved ← resolveSideEffectingCall binding toolName toolCallId input entry defaultOperation
  host (.emitTrace (.toolSelected binding.runId toolName toolCallId resolved.operation))
  let authorized ← obtainAuthorization binding toolName toolCallId resolved pinnedDigest
  let executeStartedAt ← access .perfCounter
  let executeStartedAtMs ← access .timeMs
  let toolResult ← executeAndFinalize binding toolName toolCallId resolved
    authorized.auth.decisionId executeStartedAt
  reportExecution platform binding toolName toolCallId input resolved authorized
    executeStartedAtMs toolResult

/-- The `try` block of `wrap_execute`. -/
def wrapInFlight (input : ToolCallInput) (pinnedDigest : Option String) :
    Routine PaybondInterceptWrapExecuteResult := do
  let toolName := pyStrip input.toolName
  let toolCallId := pyStrip input.toolCallId
  let registry ← access .readRegistry
  match registry.resolveTool toolName (some binding.allowedTools) with
  | .passthrough _ => do
      let toolResult ← maybeAwait (.passthrough toolName toolCallId)
      return { toolResult }
  | .denied deniedTool operation => raise (.unregisteredSideEffectingTool deniedTool operation)
  | .sideEffecting _ operation entry =>
      wrapSideEffecting platform binding toolName toolCallId input entry operation pinnedDigest

def wrapExecute (input : ToolCallInput) : Routine PaybondInterceptWrapExecuteResult := do
  requireToolCall input
  let pinnedDigest ← access .beginInFlight
  tryFinally (wrapInFlight platform binding input pinnedDigest) (access .endInFlight)

end WrapExecute

end PaybondKit.Agent
