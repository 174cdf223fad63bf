import PaybondKit.Receipt.Sections

/-!
# Agent receipts

The normalizer of a whole receipt, and the mapping that it returns. It checks the scope's
own rules: an action is executed, its identifier is derived from the tool call, and a
mandate is backed by an attestation.
-/

namespace PaybondKit.Receipt

open Agent (PyExc)

def agentReceiptSchemaVersion : Int := 1
def agentReceiptKindV1 : String := "paybond.agent_receipt_v1"
def agentReceiptVersionV1 : String := "1"
def agentReceiptSigningAlgorithmEd25519 : String := "ed25519-sha256-json-v1"
def externalAttestationKindAgentMandateV1 : String := "agent_mandate_v1"

/-- A normalized receipt. Its schema version, kind and version are the constants. -/
structure AgentReceipt where
  scope : ReceiptScope
  receiptId : String
  issuedAt : String
  tenantId : Text
  authorization : AuthorizationSection
  outcome : OutcomeSection
  references : ReferencesSection
  externalAttestations : List ExternalAttestation
  signingAlgorithm : String
  messageDigestSha256Hex : String
  signingPublicKeyEd25519Hex : String
  ed25519SignatureHex : String
  execution : Option ExecutionSection
  merchant : Option MerchantSection
  evidence : Option EvidenceSection
  payment : Option PaymentSection
  continuity : Option ContinuitySection
  operatorAttestation : Option OperatorAttestation

namespace AgentReceipt

def fields (receipt : AgentReceipt) : PyFields where
  entries :=
    [("schema_version", some (.int agentReceiptSchemaVersion)),
      ("kind", some (.str agentReceiptKindV1)),
      ("receipt_version", some (.str agentReceiptVersionV1)),
      ("scope", some (.str receipt.scope.text)),
      ("receipt_id", some (.str receipt.receiptId)),
      ("issued_at", some (.str receipt.issuedAt)),
      ("tenant_id", some (.str receipt.tenantId.val)),
      ("authorization", some (.dict receipt.authorization.fields.items)),
      ("outcome", some (.dict receipt.outcome.fields.items)),
      ("references", some (.dict receipt.references.fields.items)),
      ("external_attestations", some (externalAttestationsToPy receipt.externalAttestations)),
      ("signing_algorithm", some (.str receipt.signingAlgorithm)),
      ("message_digest_sha256_hex", some (.str receipt.messageDigestSha256Hex)),
      ("signing_public_key_ed25519_hex", some (.str receipt.signingPublicKeyEd25519Hex)),
      ("ed25519_signature_hex", some (.str receipt.ed25519SignatureHex)),
      ("execution", receipt.execution.map (.dict ·.fields.items)),
      ("merchant", receipt.merchant.map (.dict ·.fields.items)),
      ("evidence", receipt.evidence.map (.dict ·.fields.items)),
      ("payment", receipt.payment.map (.dict ·.fields.items)),
      ("continuity", receipt.continuity.map (.dict ·.fields.items)),
      ("operator_attestation", receipt.operatorAttestation.map (.dict ·.fields.items))]
  nodup := by simp

/-- The dictionary that the normalizer returns. -/
def toMapping (receipt : AgentReceipt) : Mapping := receipt.fields.mapping

end AgentReceipt

section Normalize

variable (platform : Platform)

/-- A text that defaults to a constant and has to be it. -/
def requireConstant (receipt : Mapping) (key constant : String) : Except PyExc Unit :=
  let stripped := pyStrip (platform.str ((receipt.get? key).getD (.str constant)))
  let text := if stripped = "" then constant else stripped
  raiseIf (text ≠ constant)
    (.valueError s!"agent receipt: unsupported {key} {platform.repr (.str text)}")

def verifyMandateAuthorizationConsistency (authorization : AuthorizationSection)
    (attestations : List ExternalAttestation) : Except PyExc Unit :=
  match authorization.mandate with
  | none => .ok ()
  | some mandate => do
      let digest ←
        requireHex64 (platform.stripLower mandate.digestSha256Hex.val) "mandate_digest_sha256_hex"
      let refId := pyStrip ((mandate.referenceId.map (·.val)).getD "")
      match attestations.find? fun entry =>
          pyStrip entry.kind.val = externalAttestationKindAgentMandateV1 ∧
            platform.stripLower entry.digestSha256Hex.val = digest.val with
      | none =>
          .error <| .valueError <| "agent receipt: mandate_digest_sha256_hex must match an " ++
            "external_attestations entry of kind agent_mandate_v1"
      | some entry =>
          raiseIf (refId ≠ "" ∧ refId ≠ pyStrip ((entry.referenceId.map (·.val)).getD ""))
            (.valueError <| "agent receipt: mandate_reference_id must match the matching " ++
              "external_attestations reference_id")

def actionReceiptId (intentId toolCallId : String) : String :=
  platform.sha256Hex s!"{intentId}\x00{toolCallId}".toUTF8

def verifyReceiptId (receipt : AgentReceipt) : Except PyExc Unit := do
  let intentId := receipt.references.intentId.val
  match receipt.scope with
  | .action =>
      match receipt.execution with
      | none =>
          .error <| .valueError
            "agent receipt: execution is required to verify action receipt_id"
      | some execution =>
          raiseIf (receipt.receiptId ≠ actionReceiptId platform intentId execution.toolCallId.val)
            (.valueError "agent receipt: receipt_id does not match action scope derivation")
          let _ ← requireHex64 receipt.receiptId "receipt_id"
  | .intentTerminal =>
      raiseIf (receipt.receiptId ≠ intentId) <| .valueError
        "agent receipt: receipt_id must equal intent_id for intent_terminal scope"
      let _ ← platform.parseUuid receipt.receiptId "receipt_id"

/-- The execution of an action; any other scope has none. -/
def executionOf (receipt : Mapping) : ReceiptScope → Except PyExc (Option ExecutionSection)
  | .action => do
      raiseIf ((receipt.getValue "execution").some? = none)
        (.valueError "agent receipt: execution is required for action scope")
      return some (← normalizeExecution platform (receipt.getValue "execution"))
  | .intentTerminal => .ok none

def normalizeReceipt (receipt : Mapping) : Except PyExc AgentReceipt := do
  let schemaVersion := (receipt.get? "schema_version").getD (.int agentReceiptSchemaVersion)
  raiseIf (¬(schemaVersion.eqInt 0 ∨ schemaVersion.eqInt agentReceiptSchemaVersion))
    (.valueError s!"agent receipt: unsupported schema_version {platform.str schemaVersion}")
  requireConstant platform receipt "kind" agentReceiptKindV1
  requireConstant platform receipt "receipt_version" agentReceiptVersionV1
  let scope ← ReceiptScope.parse (platform.stripLower (← platform.strItem receipt "scope"))
  let receiptId := platform.stripLower (← platform.strItem receipt "receipt_id")
  raiseIf (receiptId = "") (.valueError "agent receipt: receipt_id is required")
  let tenantId ← requireText (.valueError "agent receipt: tenant_id is required")
    (← platform.strItem receipt "tenant_id")
  let authorization ← normalizeAuthorization platform (← item receipt "authorization")
  let references ← normalizeReferences platform (← item receipt "references")
  let externalAttestations ←
    normalizeExternalAttestations platform (receipt.getValue "external_attestations")
  verifyMandateAuthorizationConsistency platform authorization externalAttestations
  let outcome ← normalizeOutcome platform (← item receipt "outcome") scope
  let execution ← executionOf platform receipt scope
  let issuedAt ← platform.formatRfc3339Seconds (← platform.strItem receipt "issued_at")
  let algorithm := platform.stripLower <| platform.str <|
    (receipt.get? "signing_algorithm").getD (.str agentReceiptSigningAlgorithmEd25519)
  let messageDigest ← platform.strItem receipt "message_digest_sha256_hex"
  let publicKey ← platform.strItem receipt "signing_public_key_ed25519_hex"
  let signature ← platform.strItem receipt "ed25519_signature_hex"
  let merchant ← (receipt.getValue "merchant").some?.mapM (normalizeMerchant platform)
  let evidence ← (receipt.getValue "evidence").some?.mapM (normalizeEvidence platform)
  let payment ← (receipt.getValue "payment").some?.mapM (normalizePayment platform)
  let continuity ← (receipt.getValue "continuity").some?.mapM fun value =>
    normalizeContinuity platform value execution
  let operatorAttestation ← (receipt.getValue "operator_attestation").some?.mapM
    (normalizeOperatorAttestation platform)
  let normalized : AgentReceipt :=
    { scope, receiptId, issuedAt, tenantId, authorization, outcome, references
      externalAttestations
      signingAlgorithm :=
        if algorithm = "" then agentReceiptSigningAlgorithmEd25519 else algorithm
      messageDigestSha256Hex := platform.stripLower messageDigest
      signingPublicKeyEd25519Hex := platform.stripLower publicKey
      ed25519SignatureHex := platform.stripLower signature
      execution, merchant, evidence, payment, continuity, operatorAttestation }
  verifyReceiptId platform normalized
  return normalized

end Normalize

end PaybondKit.Receipt
