import PaybondKit.Agent.Runtime

/-!
# Evidence results and receipt drafts

What an execution reports back: the outcome of the evidence submission and an
unsigned receipt draft. A key that the code leaves out of a dict is `none` here.
-/

namespace PaybondKit.Agent

structure AgentReceiptComposeResult where
  composeStatus : String
  receiptId : Option String := none
  scope : Option String := none
  warningCode : Option String := none
  warningMessage : Option String := none
  deriving DecidableEq, Repr

structure PaybondInterceptEvidenceResult where
  intentId : String
  predicatePassed : Option Bool := none
  sandboxLifecycleStatus : Option String := none
  intentState : Option String := none
  payloadDigestSha256Hex : Option String := none
  artifactsDigestSha256Hex : Option String := none
  agentReceipt : Option AgentReceiptComposeResult := none
  agentReceiptIntentTerminal : Option AgentReceiptComposeResult := none
  deriving DecidableEq, Repr

/-- The authorization dict of a finished execution. -/
structure AuthorizationReport where
  auditId : String
  decisionId : Option String
  policyDigest : Option String
  deriving DecidableEq, Repr

/-! ## The receipt draft -/

structure ReceiptAgent where
  operatorDid : String
  modelFamily : String
  modelInstanceId : Option String
  configHashSha256Hex : String
  promptHashSha256Hex : String
  deriving DecidableEq, Repr

structure ReceiptPolicy where
  templateId : String
  contentDigestSha256Hex : String
  deriving DecidableEq, Repr

structure ReceiptAuthorization where
  principalDid : String
  actorSubject : String
  agent : ReceiptAgent
  decisionId : String
  auditId : String
  policy : ReceiptPolicy
  authorizedAt : String
  requestedSpendCents : Option Int
  currency : String
  deriving DecidableEq, Repr

structure ReceiptExecution where
  runId : String
  toolCallId : String
  toolName : String
  operation : String
  argumentsDigestSha256Hex : String
  resultDigestSha256Hex : Option String
  outcome : String := "executed"
  startedAt : String
  completedAt : String
  durationMs : ℕ
  deriving DecidableEq, Repr

structure ReceiptOutcome where
  harborState : String
  spendReservationOutcome : String := "consumed"
  predicatePassed : Option Bool
  deriving DecidableEq, Repr

structure ReceiptMerchant where
  payeeDid : String
  vendorId : Option String
  deriving DecidableEq, Repr

structure ReceiptEvidence where
  completionPresetId : String
  payloadDigestSha256Hex : String
  predicatePassed : Bool
  payeeDid : String
  artifactsDigestSha256Hex : Option String
  deriving DecidableEq, Repr

/-- The draft. Its `settlement_receipt_id` is always null and is left out. -/
structure AgentReceiptDraft where
  schemaVersion : ℕ := 1
  kind : String := "paybond.agent_receipt_v1"
  receiptVersion : String := "1"
  scope : String := "action"
  receiptId : String
  issuedAt : String
  tenantId : String
  authorization : ReceiptAuthorization
  execution : ReceiptExecution
  outcome : ReceiptOutcome
  intentId : String
  externalAttestations : List PyValue
  signingAlgorithm : String := "ed25519-sha256-json-v1"
  messageDigestSha256Hex : String := ""
  signingPublicKeyEd25519Hex : String := ""
  ed25519SignatureHex : String := ""
  merchant : Option ReceiptMerchant
  evidence : Option ReceiptEvidence

/-- The library functions the middleware calls whose results the model does not
look into: hashes, date formatting, letter case and `str`. -/
structure Platform where
  catalog : CompletionCatalog
  documentDigest : Policy.PaybondPolicyDocumentV1 → String
  valueDigestSha256Hex : PyValue → Except PyExc String
  actionReceiptId : String → String → String
  agentReceiptMessageDigestSha256Hex : AgentReceiptDraft → Except PyExc String
  epochMsToRfc3339 : ℕ → String
  lower : String → String
  pyStr : PyValue → String

/-- What an execution knows when its receipt is drafted. -/
structure ReceiptInput where
  toolName : String
  toolCallId : String
  operation : String
  arguments : PyValue
  agentSubject : Option String
  requestedSpendCents : Option Int
  currency : Option String
  vendorId : Option String
  entry : PaybondSideEffectingToolEntry
  auth : VerifyCapabilityResult
  authorizedAtMs : ℕ
  policyDigest : Option String
  executeStartedAtMs : ℕ
  toolResult : PyValue
  evidence : PaybondInterceptEvidenceResult
  externalAttestations : List PyValue

/-- The digest without its `sha256:` prefix. -/
def bareDigest (policyDigest : String) : String :=
  match "sha256:".toList.isPrefixOf? policyDigest.toList with
  | some rest => String.ofList rest
  | none => policyDigest

/-- The context fields that a draft cannot do without. -/
structure ReceiptContext where
  operatorDid : String
  principalDid : String
  policyTemplateId : String
  configHashHex : String
  promptHashHex : String
  decisionId : String
  policyDigest : String

/-- The checks at the head of `_build_receipt_draft`. -/
def receiptContext (agentContext : PaybondRunAgentContext) (input : ReceiptInput) :
    Option ReceiptContext := do
  let operatorDid ← truthyStr agentContext.operatorDid
  let principalDid ← truthyStr agentContext.principalDid
  let policyTemplateId ← truthyStr agentContext.policyTemplateId
  let configHashHex ← truthyStr agentContext.configHashHex
  let promptHashHex ← truthyStr agentContext.promptHashHex
  let decisionId ← input.auth.decisionId
  let policyDigest ← truthyStr input.policyDigest
  return { operatorDid, principalDid, policyTemplateId, configHashHex, promptHashHex
           decisionId, policyDigest }

/-- The merchant and evidence blocks, which need a payee and a payload digest. -/
def receiptPayee (binding : PaybondRunBinding) (input : ReceiptInput) :
    Option (ReceiptMerchant × ReceiptEvidence) := do
  let payeeDid ← truthyStr (binding.productionEvidence.map (·.payeeDid))
  let payloadDigestSha256Hex ← truthyStr input.evidence.payloadDigestSha256Hex
  return ({ payeeDid, vendorId := truthyStr input.vendorId },
    { completionPresetId := input.entry.evidencePreset
      payloadDigestSha256Hex
      predicatePassed := input.evidence.predicatePassed.getD false
      payeeDid
      artifactsDigestSha256Hex := truthyStr input.evidence.artifactsDigestSha256Hex })

section Compose

variable (platform : Platform) (binding : PaybondRunBinding)

def composeReceiptDraft (agentContext : PaybondRunAgentContext) (context : ReceiptContext)
    (input : ReceiptInput) (completedAtMs : ℕ) : Except PyExc AgentReceiptDraft := do
  let argumentsDigestSha256Hex ← platform.valueDigestSha256Hex input.arguments
  let payee := receiptPayee binding input
  let draft : AgentReceiptDraft :=
    { receiptId := platform.actionReceiptId binding.intentId input.toolCallId
      issuedAt := platform.epochMsToRfc3339 completedAtMs
      tenantId := binding.tenantId
      authorization :=
        { principalDid := context.principalDid
          actorSubject := (truthyStr input.agentSubject).getD context.operatorDid
          agent :=
            { operatorDid := context.operatorDid
              modelFamily := agentContext.modelFamily
              modelInstanceId := truthyStr agentContext.modelInstanceId
              configHashSha256Hex := context.configHashHex
              promptHashSha256Hex := context.promptHashHex }
          decisionId := context.decisionId
          auditId := input.auth.auditId
          policy :=
            { templateId := context.policyTemplateId
              contentDigestSha256Hex := bareDigest context.policyDigest }
          authorizedAt := platform.epochMsToRfc3339 input.authorizedAtMs
          requestedSpendCents := input.requestedSpendCents
          currency := platform.lower ((truthyStr input.currency).getD "usd") }
      execution :=
        { runId := binding.runId
          toolCallId := input.toolCallId
          toolName := input.toolName
          operation := input.operation
          argumentsDigestSha256Hex
          resultDigestSha256Hex := (platform.valueDigestSha256Hex input.toolResult).toOption
          startedAt := platform.epochMsToRfc3339 input.executeStartedAtMs
          completedAt := platform.epochMsToRfc3339 completedAtMs
          durationMs := completedAtMs - input.executeStartedAtMs }
      outcome :=
        { harborState := ((truthyStr input.evidence.intentState).or
            (truthyStr input.evidence.sandboxLifecycleStatus)).getD "evidence_submitted"
          predicatePassed := input.evidence.predicatePassed }
      intentId := binding.intentId
      externalAttestations := input.externalAttestations
      merchant := payee.map (·.1)
      evidence := payee.map (·.2) }
  let messageDigestSha256Hex ← platform.agentReceiptMessageDigestSha256Hex draft
  return { draft with messageDigestSha256Hex }

/-- `_build_receipt_draft`: whatever goes wrong, there is no draft. -/
def buildReceiptDraft (input : ReceiptInput) : Routine (Option AgentReceiptDraft) :=
  match binding.agentContext with
  | none => return none
  | some agentContext =>
      match receiptContext agentContext input with
      | none => return none
      | some context => do
          let completedAtMs ← access .timeMs
          return (composeReceiptDraft platform binding agentContext context input
            completedAtMs).toOption

end Compose

/-- A draft reports the digest it was given. -/
theorem composeReceiptDraft_policy {platform : Platform} {binding : PaybondRunBinding}
    {agentContext : PaybondRunAgentContext} {context : ReceiptContext} {input : ReceiptInput}
    {completedAtMs : ℕ} {draft : AgentReceiptDraft}
    (hdraft : composeReceiptDraft platform binding agentContext context input completedAtMs =
      .ok draft) :
    draft.authorization.policy.contentDigestSha256Hex = bareDigest context.policyDigest := by
  simp only [composeReceiptDraft, except_bind_eq_ok, except_pure_eq_ok] at hdraft
  obtain ⟨_, _, _, _, rfl⟩ := hdraft
  rfl

theorem receiptContext_policyDigest {agentContext : PaybondRunAgentContext}
    {input : ReceiptInput} {context : ReceiptContext}
    (hcontext : receiptContext agentContext input = some context) :
    truthyStr input.policyDigest = some context.policyDigest := by
  simp only [receiptContext, Option.bind_eq_bind, Option.bind_eq_some_iff, Option.pure_def,
    Option.some.injEq] at hcontext
  obtain ⟨_, _, _, _, _, _, _, _, _, _, _, _, policyDigest, hpolicyDigest, rfl⟩ := hcontext
  exact hpolicyDigest

end PaybondKit.Agent
