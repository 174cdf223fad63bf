import PaybondKit.Receipt.Fields

/-!
# The sections of an agent receipt

Each section with the normalizer that reads it from a mapping, and the mapping that the
normalizer returns. A section cannot hold a token that the normalizer would refuse.
-/

namespace PaybondKit.Receipt

open Agent (PyExc)

abbrev PyFields := OrderedDict.Fields String PyValue

inductive ReceiptScope where
  | action
  | intentTerminal
  deriving DecidableEq, Repr

namespace ReceiptScope

def text : ReceiptScope → String
  | .action => "action"
  | .intentTerminal => "intent_terminal"

def parse (value : String) : Except PyExc ReceiptScope :=
  oneOf text [.action, .intentTerminal]
    (.valueError "agent receipt: scope must be 'action' or 'intent_terminal'") value

end ReceiptScope

/-! ## Authorization -/

structure AgentSection where
  operatorDid : Text
  modelFamily : ScopeToken
  configHashSha256Hex : Hex64
  promptHashSha256Hex : Hex64
  modelInstanceId : Option Stripped
  deploymentEpoch : Option Int

def AgentSection.fields (agent : AgentSection) : PyFields where
  entries :=
    [("operator_did", some (.str agent.operatorDid.val)),
      ("model_family", some (.str agent.modelFamily.val)),
      ("config_hash_sha256_hex", some (.str agent.configHashSha256Hex.val)),
      ("prompt_hash_sha256_hex", some (.str agent.promptHashSha256Hex.val)),
      ("model_instance_id", agent.modelInstanceId.map (.str ·.val)),
      ("deployment_epoch", agent.deploymentEpoch.map .int)]
  nodup := by simp

structure PolicySection where
  templateId : Text
  contentDigestSha256Hex : Hex64
  versionSeq : Option Int
  spendPolicyVersion : Option Int

def PolicySection.fields (policy : PolicySection) : PyFields where
  entries :=
    [("template_id", some (.str policy.templateId.val)),
      ("content_digest_sha256_hex", some (.str policy.contentDigestSha256Hex.val)),
      ("version_seq", policy.versionSeq.map .int),
      ("spend_policy_version", policy.spendPolicyVersion.map .int)]
  nodup := by simp

/-- A reference to a mandate comes with its digest. -/
structure Mandate where
  digestSha256Hex : Hex64
  referenceId : Option Text

structure AuthorizationSection where
  principalDid : Text
  actorSubject : Text
  agent : AgentSection
  decisionId : Uuid
  policy : PolicySection
  authorizedAt : String
  requestedSpendCents : { cents : Int // 0 ≤ cents }
  currency : Currency
  reasonCodes : TokenSet
  auditId : Option Uuid
  mandate : Option Mandate
  zkPolicyProofDigestSha256Hex : Option Hex64

def tokensToPy (tokens : TokenSet) : PyValue := .list (tokens.val.map fun token => .str token.val)

def AuthorizationSection.fields (authorization : AuthorizationSection) : PyFields where
  entries :=
    [("principal_did", some (.str authorization.principalDid.val)),
      ("actor_subject", some (.str authorization.actorSubject.val)),
      ("agent", some (.dict authorization.agent.fields.items)),
      ("decision_id", some (.str authorization.decisionId.val)),
      ("policy", some (.dict authorization.policy.fields.items)),
      ("authorized_at", some (.str authorization.authorizedAt)),
      ("requested_spend_cents", some (.int authorization.requestedSpendCents.val)),
      ("currency", some (.str authorization.currency.val)),
      ("reason_codes", some (tokensToPy authorization.reasonCodes)),
      ("audit_id", authorization.auditId.map (.str ·.val)),
      ("mandate_digest_sha256_hex", authorization.mandate.map (.str ·.digestSha256Hex.val)),
      ("mandate_reference_id", (authorization.mandate.bind (·.referenceId)).map (.str ·.val)),
      ("zk_policy_proof_digest_sha256_hex",
        authorization.zkPolicyProofDigestSha256Hex.map (.str ·.val))]
  nodup := by simp

section Authorization

variable (platform : Platform)

def normalizeAgent (value : PyValue) : Except PyExc AgentSection := do
  let value ← asMapping "TypeError" value
  let operatorDid ← requireText (.valueError "agent receipt: agent.operator_did is required")
    (← platform.strItem value "operator_did")
  let configHash := platform.stripLower (← platform.strItem value "config_hash_sha256_hex")
  let promptHash := platform.stripLower (← platform.strItem value "prompt_hash_sha256_hex")
  let configHashSha256Hex ← requireHex64 configHash "agent.config_hash_sha256_hex"
  let promptHashSha256Hex ← requireHex64 promptHash "agent.prompt_hash_sha256_hex"
  let modelFamily ←
    platform.scopeToken (← platform.strItem value "model_family") "agent.model_family"
  let deploymentEpoch ← (value.getValue "deployment_epoch").some?.mapM platform.int
  return { operatorDid, modelFamily, configHashSha256Hex, promptHashSha256Hex, deploymentEpoch
           modelInstanceId :=
             (value.getValue "model_instance_id").truthy?.map (strip ∘ platform.str) }

def normalizePolicy (value : PyValue) : Except PyExc PolicySection := do
  let value ← asMapping "TypeError" value
  let template ← platform.strItem value "template_id"
  let digest := platform.stripLower (← platform.strItem value "content_digest_sha256_hex")
  let templateId ←
    requireText (.valueError "agent receipt: policy.template_id is required") template
  let contentDigestSha256Hex ← requireHex64 digest "policy.content_digest_sha256_hex"
  let versionSeq ← (value.getValue "version_seq").some?.mapM platform.int
  let spendPolicyVersion ← (value.getValue "spend_policy_version").some?.mapM platform.int
  return { templateId, contentDigestSha256Hex, versionSeq, spendPolicyVersion }

def mandateReferenceFailure : PyExc :=
  .valueError "agent receipt: mandate_reference_id requires mandate_digest_sha256_hex"

/-- The mandate of `_normalize_authorization`. -/
def normalizeMandate (value : Mapping) : Except PyExc (Option Mandate) := do
  let referenceId := optionalText (platform.strOrBlank (value.getValue "mandate_reference_id"))
  match ← platform.optionalHex64 (value.getValue "mandate_digest_sha256_hex")
      "mandate_digest_sha256_hex" with
  | some digestSha256Hex => return some { digestSha256Hex, referenceId }
  | none =>
      raiseIf (referenceId ≠ none) mandateReferenceFailure
      return none

def normalizeAuthorization (value : PyValue) : Except PyExc AuthorizationSection := do
  let value ← asMapping "TypeError" value
  let principal ← platform.strItem value "principal_did"
  let actor ← platform.strItem value "actor_subject"
  let principalDid ← requireText (.valueError "agent receipt: principal_did is required") principal
  let actorSubject ← requireText (.valueError "agent receipt: actor_subject is required") actor
  let currency := platform.stripLower (← platform.strItem value "currency")
  let currency ← checked (fun text => Policy.currencyRe text = true)
    (.valueError
      s!"agent receipt: currency {platform.repr (.str currency)} is not canonical") currency
  let requestedSpendCents ← checked (0 ≤ ·)
    (.valueError "agent receipt: requested_spend_cents must be non-negative")
    (← platform.int (← item value "requested_spend_cents"))
  let agent ← normalizeAgent platform (← item value "agent")
  let decisionId ← platform.parseUuid (← platform.strItem value "decision_id") "decision_id"
  let policy ← normalizePolicy platform (← item value "policy")
  let authorizedAt ← platform.formatRfc3339Seconds (← platform.strItem value "authorized_at")
  let reasonCodes ← platform.normalizeScopeSet (value.getValue "reason_codes") "reason_codes"
  let auditId ← (value.getValue "audit_id").truthy?.mapM fun id =>
    platform.parseUuid (platform.str id) "audit_id"
  let mandate ← normalizeMandate platform value
  let zkPolicyProofDigestSha256Hex ←
    platform.optionalHex64 (value.getValue "zk_policy_proof_digest_sha256_hex")
      "zk_policy_proof_digest_sha256_hex"
  return { principalDid, actorSubject, agent, decisionId, policy, authorizedAt
           requestedSpendCents, currency, reasonCodes, auditId, mandate
           zkPolicyProofDigestSha256Hex }

end Authorization

/-! ## Execution -/

inductive ExecutionOutcome where
  | executed
  | denied
  | skipped
  | failed
  deriving DecidableEq, Repr

def ExecutionOutcome.text : ExecutionOutcome → String
  | .executed => "executed"
  | .denied => "denied"
  | .skipped => "skipped"
  | .failed => "failed"

structure ExecutionSection where
  runId : Uuid
  toolCallId : Text
  toolName : ScopeToken
  operation : ScopeToken
  argumentsDigestSha256Hex : Hex64
  outcome : ExecutionOutcome
  startedAt : String
  completedAt : String
  resultDigestSha256Hex : Option Hex64
  durationMs : Option { ms : Int // 0 ≤ ms }
  teeAttestationDigestSha256Hex : Option Hex64

def ExecutionSection.fields (execution : ExecutionSection) : PyFields where
  entries :=
    [("run_id", some (.str execution.runId.val)),
      ("tool_call_id", some (.str execution.toolCallId.val)),
      ("tool_name", some (.str execution.toolName.val)),
      ("operation", some (.str execution.operation.val)),
      ("arguments_digest_sha256_hex", some (.str execution.argumentsDigestSha256Hex.val)),
      ("outcome", some (.str execution.outcome.text)),
      ("started_at", some (.str execution.startedAt)),
      ("completed_at", some (.str execution.completedAt)),
      ("result_digest_sha256_hex", execution.resultDigestSha256Hex.map (.str ·.val)),
      ("duration_ms", execution.durationMs.map (.int ·.val)),
      ("tee_attestation_digest_sha256_hex",
        execution.teeAttestationDigestSha256Hex.map (.str ·.val))]
  nodup := by simp

def normalizeExecution (platform : Platform) (value : PyValue) : Except PyExc ExecutionSection := do
  let value ← asMapping "TypeError" value
  let toolCallId ← requireText (.valueError "agent receipt: tool_call_id is required")
    (← platform.strItem value "tool_call_id")
  let argumentsDigestSha256Hex ← requireHex64
    (platform.stripLower (← platform.strItem value "arguments_digest_sha256_hex"))
    "arguments_digest_sha256_hex"
  let outcome ← oneOf ExecutionOutcome.text [.executed, .denied, .skipped, .failed]
    (.valueError "agent receipt: outcome must be executed, denied, skipped, or failed")
    (platform.stripLower (← platform.strItem value "outcome"))
  let runId ← platform.parseUuid (← platform.strItem value "run_id") "run_id"
  let toolName ← platform.scopeToken (← platform.strItem value "tool_name") "tool_name"
  let operation ← platform.scopeToken (← platform.strItem value "operation") "operation"
  let startedAt ← platform.formatRfc3339Seconds (← platform.strItem value "started_at")
  let completedAt ← platform.formatRfc3339Seconds (← platform.strItem value "completed_at")
  let resultDigestSha256Hex ←
    platform.truthyHex64 (value.getValue "result_digest_sha256_hex") "result_digest_sha256_hex"
  let durationMs ← (value.getValue "duration_ms").some?.mapM fun duration => do
    checked (0 ≤ ·) (.valueError "agent receipt: duration_ms must be non-negative")
      (← platform.int duration)
  let teeAttestationDigestSha256Hex ←
    platform.optionalHex64 (value.getValue "tee_attestation_digest_sha256_hex")
      "tee_attestation_digest_sha256_hex"
  return { runId, toolCallId, toolName, operation, argumentsDigestSha256Hex, outcome, startedAt
           completedAt, resultDigestSha256Hex, durationMs, teeAttestationDigestSha256Hex }

/-! ## Merchant, evidence and payment -/

structure MerchantSection where
  payeeDid : Text
  vendorId : Option ScopeToken
  vendorRefId : Option Stripped

def MerchantSection.fields (merchant : MerchantSection) : PyFields where
  entries :=
    [("payee_did", some (.str merchant.payeeDid.val)),
      ("vendor_id", merchant.vendorId.map (.str ·.val)),
      ("vendor_ref_id", merchant.vendorRefId.map (.str ·.val))]
  nodup := by simp

structure EvidenceSection where
  completionPresetId : ScopeToken
  payloadDigestSha256Hex : Hex64
  predicatePassed : Bool
  payeeDid : Text
  artifactsDigestSha256Hex : Option Hex64
  payeeSignatureDigestSha256Hex : Option Hex64

def EvidenceSection.fields (evidence : EvidenceSection) : PyFields where
  entries :=
    [("completion_preset_id", some (.str evidence.completionPresetId.val)),
      ("payload_digest_sha256_hex", some (.str evidence.payloadDigestSha256Hex.val)),
      ("predicate_passed", some (.bool evidence.predicatePassed)),
      ("payee_did", some (.str evidence.payeeDid.val)),
      ("artifacts_digest_sha256_hex", evidence.artifactsDigestSha256Hex.map (.str ·.val)),
      ("payee_signature_digest_sha256_hex",
        evidence.payeeSignatureDigestSha256Hex.map (.str ·.val))]
  nodup := by simp

structure PaymentSection where
  intentId : Uuid
  settlementRail : ScopeToken
  fundingMethod : Option ScopeToken
  fundingReference : Option Stripped
  fundingReceiptDigestSha256Hex : Option Hex64

def PaymentSection.fields (payment : PaymentSection) : PyFields where
  entries :=
    [("intent_id", some (.str payment.intentId.val)),
      ("settlement_rail", some (.str payment.settlementRail.val)),
      ("funding_method", payment.fundingMethod.map (.str ·.val)),
      ("funding_reference", payment.fundingReference.map (.str ·.val)),
      ("funding_receipt_digest_sha256_hex",
        payment.fundingReceiptDigestSha256Hex.map (.str ·.val))]
  nodup := by simp

section Settlement

variable (platform : Platform)

def payeeDidFailure : PyExc := .valueError "agent receipt: payee_did is required"

def normalizeMerchant (value : PyValue) : Except PyExc MerchantSection := do
  let value ← asMapping "TypeError" value
  let payeeDid ← requireText payeeDidFailure (← platform.strItem value "payee_did")
  let vendorId ← platform.truthyToken (value.getValue "vendor_id") "vendor_id"
  return { payeeDid, vendorId
           vendorRefId := (value.getValue "vendor_ref_id").truthy?.map (strip ∘ platform.str) }

def normalizeEvidence (value : PyValue) : Except PyExc EvidenceSection := do
  let value ← asMapping "TypeError" value
  let payloadDigestSha256Hex ← requireHex64
    (platform.stripLower (← platform.strItem value "payload_digest_sha256_hex"))
    "payload_digest_sha256_hex"
  let payeeDid ← requireText payeeDidFailure (← platform.strItem value "payee_did")
  let completionPresetId ←
    platform.scopeToken (← platform.strItem value "completion_preset_id") "completion_preset_id"
  let predicatePassed := (← item value "predicate_passed").truthy
  let artifactsDigestSha256Hex ← platform.truthyHex64
    (value.getValue "artifacts_digest_sha256_hex") "artifacts_digest_sha256_hex"
  let payeeSignatureDigestSha256Hex ← platform.truthyHex64
    (value.getValue "payee_signature_digest_sha256_hex") "payee_signature_digest_sha256_hex"
  return { completionPresetId, payloadDigestSha256Hex, predicatePassed, payeeDid
           artifactsDigestSha256Hex, payeeSignatureDigestSha256Hex }

def normalizePayment (value : PyValue) : Except PyExc PaymentSection := do
  let value ← asMapping "TypeError" value
  let intentId ← platform.parseUuid (← platform.strItem value "intent_id") "intent_id"
  let settlementRail ←
    platform.scopeToken (← platform.strItem value "settlement_rail") "settlement_rail"
  let fundingMethod ← platform.truthyToken (value.getValue "funding_method") "funding_method"
  let fundingReceiptDigestSha256Hex ← platform.truthyHex64
    (value.getValue "funding_receipt_digest_sha256_hex") "funding_receipt_digest_sha256_hex"
  return { intentId, settlementRail, fundingMethod, fundingReceiptDigestSha256Hex
           fundingReference :=
             (value.getValue "funding_reference").truthy?.map (strip ∘ platform.str) }

end Settlement

/-! ## Outcome and references -/

inductive SpendReservationOutcome where
  | consumed
  | released
  | pending
  | none
  deriving DecidableEq, Repr

def SpendReservationOutcome.text : SpendReservationOutcome → String
  | .consumed => "consumed"
  | .released => "released"
  | .pending => "pending"
  | .none => "none"

inductive SettlementOutcome where
  | settled
  | pendingFinality
  | reversed
  | failed
  deriving DecidableEq, Repr

def SettlementOutcome.text : SettlementOutcome → String
  | .settled => "SETTLED"
  | .pendingFinality => "PENDING_FINALITY"
  | .reversed => "REVERSED"
  | .failed => "FAILED"

structure OutcomeSection where
  harborState : ScopeToken
  spendReservationOutcome : Option SpendReservationOutcome
  predicatePassed : Option Bool
  settlementOutcome : Option SettlementOutcome

def OutcomeSection.fields (outcome : OutcomeSection) : PyFields where
  entries :=
    [("harbor_state", some (.str outcome.harborState.val)),
      ("spend_reservation_outcome", outcome.spendReservationOutcome.map (.str ·.text)),
      ("predicate_passed", outcome.predicatePassed.map .bool),
      ("settlement_outcome", outcome.settlementOutcome.map (.str ·.text))]
  nodup := by simp

/-- A UUID or a digest. -/
def settlementReceiptIdRe (text : String) : Bool := uuidRe text || hex64Re text

/-- A value that does not count as true is kept as it is. -/
inductive SettlementReceiptId where
  | falsy (value : PyValue) (hfalsy : value.truthy = false)
  | reference (text : Matching settlementReceiptIdRe)

def SettlementReceiptId.toPy : SettlementReceiptId → PyValue
  | .falsy value _ => value
  | .reference text => .str text.val

structure ReferencesSection where
  intentId : Uuid
  settlementReceiptId : SettlementReceiptId
  ledgerSeq : Option { seq : Int // 0 < seq }

def ReferencesSection.fields (references : ReferencesSection) : PyFields where
  entries :=
    [("intent_id", some (.str references.intentId.val)),
      ("settlement_receipt_id", some references.settlementReceiptId.toPy),
      ("ledger_seq", references.ledgerSeq.map (.int ·.val))]
  nodup := by simp

section Outcome

variable (platform : Platform)

def normalizeOutcome (value : PyValue) (scope : ReceiptScope) : Except PyExc OutcomeSection := do
  let value ← asMapping "TypeError" value
  let harborState ←
    platform.scopeToken (← platform.strItem value "harbor_state") "harbor_state"
  let spendReservationOutcome ←
    (value.getValue "spend_reservation_outcome").truthy?.mapM fun outcome =>
      oneOf SpendReservationOutcome.text [.consumed, .released, .pending, .none]
        (.valueError <| "agent receipt: spend_reservation_outcome must be consumed, released, " ++
          "pending, or none")
        (platform.stripLower (platform.str outcome))
  let predicatePassed := (value.getValue "predicate_passed").some?.map PyValue.truthy
  let settlement := pyStrip (platform.strOrBlank (value.getValue "settlement_outcome"))
  if settlement = "" then
    return { harborState, spendReservationOutcome, predicatePassed, settlementOutcome := none }
  let settlementOutcome ←
    oneOf SettlementOutcome.text [.settled, .pendingFinality, .reversed, .failed]
      (.valueError <| "agent receipt: settlement_outcome must be SETTLED, PENDING_FINALITY, " ++
        "REVERSED, or FAILED")
      settlement
  raiseIf (scope ≠ .intentTerminal)
    (.valueError "agent receipt: settlement_outcome is only valid for intent_terminal scope")
  return { harborState, spendReservationOutcome, predicatePassed
           settlementOutcome := some settlementOutcome }

def normalizeSettlementReceiptId (value : PyValue) : Except PyExc SettlementReceiptId :=
  if hfalsy : value.truthy = false then .ok (.falsy value hfalsy)
  else
    let trimmed := platform.stripLower (platform.str value)
    if trimmed = "" then .ok (.falsy .none rfl)
    else
      .reference <$> checked _ (.valueError <| "agent receipt: settlement_receipt_id must be a " ++
        "canonical UUID or lowercase 64-byte hex digest") trimmed

def normalizeReferences (value : PyValue) : Except PyExc ReferencesSection := do
  let value ← asMapping "AttributeError" value
  let ledgerSeq ← ((value.getValue "ledger_seq").truthy?.mapM platform.int)
  let ledgerSeq := ledgerSeq.getD 0
  raiseIf (ledgerSeq < 0) (.valueError "agent receipt: ledger_seq must be non-negative")
  let intentId ← platform.parseUuid (← platform.strItem value "intent_id") "intent_id"
  let settlementReceiptId ←
    normalizeSettlementReceiptId platform (value.getValue "settlement_receipt_id")
  return { intentId, settlementReceiptId
           ledgerSeq := if hseq : 0 < ledgerSeq then some ⟨ledgerSeq, hseq⟩ else none }

end Outcome

/-! ## External attestations -/

structure ExternalAttestation where
  source : ScopeToken
  kind : Text
  digestSha256Hex : Hex64
  referenceId : Option Stripped

def ExternalAttestation.fields (attestation : ExternalAttestation) : PyFields where
  entries :=
    [("source", some (.str attestation.source.val)),
      ("kind", some (.str attestation.kind.val)),
      ("digest_sha256_hex", some (.str attestation.digestSha256Hex.val)),
      ("reference_id", attestation.referenceId.map (.str ·.val))]
  nodup := by simp

def externalAttestationsToPy (attestations : List ExternalAttestation) : PyValue :=
  .list (attestations.map fun attestation => .dict attestation.fields.items)

section ExternalAttestations

variable (platform : Platform)

def normalizeExternalAttestation (value : PyValue) : Except PyExc ExternalAttestation := do
  let value ← asMapping "TypeError" value
  let digestSha256Hex ← requireHex64
    (platform.stripLower (← platform.strItem value "digest_sha256_hex")) "digest_sha256_hex"
  let kind ← requireText (.valueError "agent receipt: kind is required")
    (← platform.strItem value "kind")
  let source ← platform.scopeToken (← platform.strItem value "source") "source"
  return { source, kind, digestSha256Hex
           referenceId := (value.getValue "reference_id").truthy?.map (strip ∘ platform.str) }

/-- `_normalize_external_attestations(values or [])`. -/
def normalizeExternalAttestations (values : PyValue) : Except PyExc (List ExternalAttestation) :=
  if values.truthy then do
    (← pyIter values).mapM (normalizeExternalAttestation platform)
  else .ok []

end ExternalAttestations

/-! ## Continuity -/

/-- The place of a receipt in the chain of its run. -/
inductive ChainLink where
  | first
  | after (sequenceNumber : { seq : Int // 1 < seq }) (prevMessageDigestSha256Hex : Hex64)

namespace ChainLink

def sequenceNumber : ChainLink → Int
  | .first => 1
  | .after sequenceNumber _ => sequenceNumber.val

def prevMessageDigestSha256Hex : ChainLink → Option Hex64
  | .first => none
  | .after _ prev => some prev

def parse (sequenceNumber : Int) (prev : String) : Except PyExc ChainLink :=
  if hpositive : sequenceNumber < 1 then
    .error (.valueError "agent receipt: continuity.sequence_number must be >= 1")
  else if hfirst : sequenceNumber = 1 then
    if prev = "" then .ok .first
    else
      .error <| .valueError <| "agent receipt: continuity.sequence_number 1 must not set " ++
        "prev_message_digest_sha256_hex"
  else
    .after ⟨sequenceNumber, by omega⟩ <$>
      requireHex64 prev "continuity.prev_message_digest_sha256_hex"

end ChainLink

structure ContinuitySection where
  link : ChainLink
  runId : Uuid

def ContinuitySection.fields (continuity : ContinuitySection) : PyFields where
  entries :=
    [("sequence_number", some (.int continuity.link.sequenceNumber)),
      ("run_id", some (.str continuity.runId.val)),
      ("prev_message_digest_sha256_hex",
        continuity.link.prevMessageDigestSha256Hex.map (.str ·.val))]
  nodup := by simp

structure OperatorAttestation where
  operatorDid : Text
  signingPublicKeyEd25519Hex : Hex64
  messageDigestSha256Hex : Hex64
  ed25519SignatureHex : { hex : String // hex.length = 128 }

def OperatorAttestation.fields (attestation : OperatorAttestation) : PyFields where
  entries :=
    [("operator_did", some (.str attestation.operatorDid.val)),
      ("signing_public_key_ed25519_hex", some (.str attestation.signingPublicKeyEd25519Hex.val)),
      ("message_digest_sha256_hex", some (.str attestation.messageDigestSha256Hex.val)),
      ("ed25519_signature_hex", some (.str attestation.ed25519SignatureHex.val))]
  nodup := by simp

section Continuity

variable (platform : Platform)

def normalizeContinuity (value : PyValue) (execution : Option ExecutionSection) :
    Except PyExc ContinuitySection := do
  let value ← asMapping "TypeError" value
  let runId ← platform.parseUuid (← platform.strItem value "run_id") "continuity.run_id"
  let sequenceNumber ← platform.int (← item value "sequence_number")
  let prev :=
    platform.stripLower (platform.strOrBlank (value.getValue "prev_message_digest_sha256_hex"))
  let link ← ChainLink.parse sequenceNumber prev
  raiseIf (∃ executed ∈ execution, platform.stripLower executed.runId.val ≠ runId.val)
    (.valueError "agent receipt: continuity.run_id must match execution.run_id")
  return { link, runId }

def normalizeOperatorAttestation (value : PyValue) : Except PyExc OperatorAttestation := do
  let value ← asMapping "TypeError" value
  let operatorDid ←
    requireText (.valueError "agent receipt: operator_attestation.operator_did is required")
      (← platform.strItem value "operator_did")
  let messageDigest := platform.stripLower (← platform.strItem value "message_digest_sha256_hex")
  let publicKey :=
    platform.stripLower (← platform.strItem value "signing_public_key_ed25519_hex")
  let signature := platform.stripLower (← platform.strItem value "ed25519_signature_hex")
  let messageDigestSha256Hex ←
    requireHex64 messageDigest "operator_attestation.message_digest_sha256_hex"
  let signingPublicKeyEd25519Hex ←
    requireHex64 publicKey "operator_attestation.signing_public_key_ed25519_hex"
  let ed25519SignatureHex ← checked (·.length = 128)
    (.valueError <| "agent receipt: operator_attestation.ed25519_signature_hex must be 128 hex " ++
      "chars") signature
  return { operatorDid, signingPublicKeyEd25519Hex, messageDigestSha256Hex, ed25519SignatureHex }

end Continuity

end PaybondKit.Receipt
