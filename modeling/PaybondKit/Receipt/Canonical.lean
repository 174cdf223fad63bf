import PaybondKit.Receipt.AgentReceipt

/-!
# Canonical bytes of an agent receipt

The text that a receipt's digest is taken of. A blank text or a zero in an optional field
is left out of it like a missing one.
-/

namespace PaybondKit.Receipt

abbrev JsonFields := OrderedDict.Fields String Json

/-- An optional text counts when it is not blank. -/
def dropBlank (text : Option Stripped) : Option Stripped := text.filter (·.val ≠ "")

/-- An optional number counts when it is not zero. -/
def dropZero (value : Option Int) : Option Int := value.filter (· ≠ 0)

def jsonInt (value : Int) : Json := .number (.ofInt value)

/-! ## Sections -/

def AgentSection.canonical (agent : AgentSection) : JsonFields where
  entries :=
    [("operator_did", some (.string agent.operatorDid.val)),
      ("model_family", some (.string agent.modelFamily.val)),
      ("model_instance_id", (dropBlank agent.modelInstanceId).map (.string ·.val)),
      ("config_hash_sha256_hex", some (.string agent.configHashSha256Hex.val)),
      ("prompt_hash_sha256_hex", some (.string agent.promptHashSha256Hex.val)),
      ("deployment_epoch", (dropZero agent.deploymentEpoch).map jsonInt)]
  nodup := by simp

def PolicySection.canonical (policy : PolicySection) : JsonFields where
  entries :=
    [("template_id", some (.string policy.templateId.val)),
      ("version_seq", (dropZero policy.versionSeq).map jsonInt),
      ("content_digest_sha256_hex", some (.string policy.contentDigestSha256Hex.val)),
      ("spend_policy_version", (dropZero policy.spendPolicyVersion).map jsonInt)]
  nodup := by simp

/-- The codes as an array, unless there are none. -/
def canonicalTokens (tokens : TokenSet) : Option Json :=
  if tokens.val = [] then none
  else some (.array (tokens.val.map fun token => .string token.val))

def AuthorizationSection.canonical (authorization : AuthorizationSection) : JsonFields where
  entries :=
    [("principal_did", some (.string authorization.principalDid.val)),
      ("actor_subject", some (.string authorization.actorSubject.val)),
      ("agent", some (.object authorization.agent.canonical.items)),
      ("decision_id", some (.string authorization.decisionId.val)),
      ("audit_id", authorization.auditId.map (.string ·.val)),
      ("policy", some (.object authorization.policy.canonical.items)),
      ("authorized_at", some (.string authorization.authorizedAt)),
      ("requested_spend_cents", some (jsonInt authorization.requestedSpendCents.val)),
      ("currency", some (.string authorization.currency.val)),
      ("reason_codes", canonicalTokens authorization.reasonCodes),
      ("mandate_digest_sha256_hex", authorization.mandate.map (.string ·.digestSha256Hex.val)),
      ("mandate_reference_id", (authorization.mandate.bind (·.referenceId)).map (.string ·.val)),
      ("zk_policy_proof_digest_sha256_hex",
        authorization.zkPolicyProofDigestSha256Hex.map (.string ·.val))]
  nodup := by simp

def ExecutionSection.canonical (execution : ExecutionSection) : JsonFields where
  entries :=
    [("run_id", some (.string execution.runId.val)),
      ("tool_call_id", some (.string execution.toolCallId.val)),
      ("tool_name", some (.string execution.toolName.val)),
      ("operation", some (.string execution.operation.val)),
      ("arguments_digest_sha256_hex", some (.string execution.argumentsDigestSha256Hex.val)),
      ("result_digest_sha256_hex", execution.resultDigestSha256Hex.map (.string ·.val)),
      ("outcome", some (.string execution.outcome.text)),
      ("started_at", some (.string execution.startedAt)),
      ("completed_at", some (.string execution.completedAt)),
      ("duration_ms", (execution.durationMs.filter (·.val ≠ 0)).map (jsonInt ·.val)),
      ("tee_attestation_digest_sha256_hex",
        execution.teeAttestationDigestSha256Hex.map (.string ·.val))]
  nodup := by simp

def MerchantSection.canonical (merchant : MerchantSection) : JsonFields where
  entries :=
    [("payee_did", some (.string merchant.payeeDid.val)),
      ("vendor_id", merchant.vendorId.map (.string ·.val)),
      ("vendor_ref_id", (dropBlank merchant.vendorRefId).map (.string ·.val))]
  nodup := by simp

def EvidenceSection.canonical (evidence : EvidenceSection) : JsonFields where
  entries :=
    [("completion_preset_id", some (.string evidence.completionPresetId.val)),
      ("payload_digest_sha256_hex", some (.string evidence.payloadDigestSha256Hex.val)),
      ("artifacts_digest_sha256_hex", evidence.artifactsDigestSha256Hex.map (.string ·.val)),
      ("predicate_passed", some (.bool evidence.predicatePassed)),
      ("payee_did", some (.string evidence.payeeDid.val)),
      ("payee_signature_digest_sha256_hex",
        evidence.payeeSignatureDigestSha256Hex.map (.string ·.val))]
  nodup := by simp

def PaymentSection.canonical (payment : PaymentSection) : JsonFields where
  entries :=
    [("intent_id", some (.string payment.intentId.val)),
      ("settlement_rail", some (.string payment.settlementRail.val)),
      ("funding_method", payment.fundingMethod.map (.string ·.val)),
      ("funding_reference", (dropBlank payment.fundingReference).map (.string ·.val)),
      ("funding_receipt_digest_sha256_hex",
        payment.fundingReceiptDigestSha256Hex.map (.string ·.val))]
  nodup := by simp

def OutcomeSection.canonical (outcome : OutcomeSection) : JsonFields where
  entries :=
    [("harbor_state", some (.string outcome.harborState.val)),
      ("spend_reservation_outcome", outcome.spendReservationOutcome.map (.string ·.text)),
      ("predicate_passed", outcome.predicatePassed.map .bool),
      ("settlement_outcome", outcome.settlementOutcome.map (.string ·.text))]
  nodup := by simp

def ReferencesSection.canonical (floatText : PyFloat → JsonNumber)
    (references : ReferencesSection) : JsonFields where
  entries :=
    [("intent_id", some (.string references.intentId.val)),
      ("ledger_seq", references.ledgerSeq.map (jsonInt ·.val)),
      ("settlement_receipt_id", some (references.settlementReceiptId.toPy.toJson floatText))]
  nodup := by simp

/-- Printed as the normalizer left it. -/
def ExternalAttestation.canonical (attestation : ExternalAttestation) : JsonFields where
  entries :=
    [("source", some (.string attestation.source.val)),
      ("kind", some (.string attestation.kind.val)),
      ("digest_sha256_hex", some (.string attestation.digestSha256Hex.val)),
      ("reference_id", attestation.referenceId.map (.string ·.val))]
  nodup := by simp

def canonicalAttestations (attestations : List ExternalAttestation) : Json :=
  if attestations = [] then .null
  else .array (attestations.map fun attestation => .object attestation.canonical.items)

def ContinuitySection.canonical (continuity : ContinuitySection) : JsonFields where
  entries :=
    [("prev_message_digest_sha256_hex",
        continuity.link.prevMessageDigestSha256Hex.map (.string ·.val)),
      ("sequence_number", some (jsonInt continuity.link.sequenceNumber)),
      ("run_id", some (.string continuity.runId.val))]
  nodup := by simp

/-! ## The receipt -/

def AgentReceipt.canonical (floatText : PyFloat → JsonNumber) (receipt : AgentReceipt) :
    JsonFields where
  entries :=
    [("schema_version", some (jsonInt agentReceiptSchemaVersion)),
      ("kind", some (.string agentReceiptKindV1)),
      ("receipt_version", some (.string agentReceiptVersionV1)),
      ("scope", some (.string receipt.scope.text)),
      ("receipt_id", some (.string receipt.receiptId)),
      ("issued_at", some (.string receipt.issuedAt)),
      ("tenant_id", some (.string receipt.tenantId.val)),
      ("authorization", some (.object receipt.authorization.canonical.items)),
      ("execution", receipt.execution.map (.object ·.canonical.items)),
      ("merchant", receipt.merchant.map (.object ·.canonical.items)),
      ("evidence", receipt.evidence.map (.object ·.canonical.items)),
      ("payment", receipt.payment.map (.object ·.canonical.items)),
      ("outcome", some (.object receipt.outcome.canonical.items)),
      ("references", some (.object (receipt.references.canonical floatText).items)),
      ("external_attestations", some (canonicalAttestations receipt.externalAttestations)),
      ("continuity", receipt.continuity.map (.object ·.canonical.items))]
  nodup := by simp

/-- `_marshal_canonical_agent_receipt`. -/
def AgentReceipt.canonicalBytes (floatText : PyFloat → JsonNumber) (receipt : AgentReceipt) :
    ByteArray :=
  jsonDumpsBytes compactStyle (.object (receipt.canonical floatText).items)

end PaybondKit.Receipt
