import PaybondKit.Receipt.Canonical
import PaybondKit.Receipt.Hex

/-!
# Verification of agent receipts

A receipt is accepted when it normalizes, its digest is that of its canonical bytes and its
key signed the digest. Options add the keys that are trusted, the prior receipt of the run,
the operator's registry and a validity tier.
-/

namespace PaybondKit.Receipt

open Agent (PyExc)

inductive ValidityTier where
  | operational
  | primary
  | attested
  deriving DecidableEq, Repr

/-- The keyword arguments of `verify_agent_receipt_v1`. -/
structure VerifyOptions where
  expectedSigningPublicKeys : Option (List String) := none
  verifyOperatorAgainstRegistry : Option Bool := none
  trustedOperatorPublicKeys : Option (List String) := none
  trustMode : Option String := none
  requiredValidityTier : Option String := none
  expectedPriorMessageDigestHex : Option String := none

section Verify

variable (platform : Platform)

/-- `(value or "").strip().lower()`. -/
def foldOption (value : Option String) : String := platform.stripLower (value.getD "")

def allowsPublicKeyHex (publicKeyHex : String) (keys : List String) : Bool :=
  keys.any fun key => platform.stripLower key = platform.stripLower publicKeyHex

def allowsSigningPublicKeyHex (publicKeyHex : String) (expected : Option (List String)) : Bool :=
  (expected.getD []).isEmpty || allowsPublicKeyHex platform publicKeyHex (expected.getD [])

/-- Without trusted keys none is allowed. -/
def allowsOperatorPublicKeyHex (publicKeyHex : String) (trusted : Option (List String)) : Bool :=
  allowsPublicKeyHex platform publicKeyHex (trusted.getD [])

def normalizeValidityTier (value : Option String) : Except PyExc ValidityTier :=
  let normalized := foldOption platform value
  if normalized = "" ∨ normalized = "operational" then .ok .operational
  else if normalized = "primary" then .ok .primary
  else if normalized = "attested" then .ok .attested
  else
    .error <| .valueError <|
      "agent receipt: unknown validity_tier " ++ platform.repr (.str (value.getD ""))

def verifyContinuityExpectedPrior (receipt : AgentReceipt) (expectedPrior : Option String) :
    Except PyExc Unit :=
  let expected := foldOption platform expectedPrior
  if expected = "" then .ok ()
  else
    match receipt.continuity with
    | none =>
        .error <| .valueError <| "agent receipt: continuity is required when an expected prior " ++
          "digest is configured"
    | some continuity => do
        raiseIf (continuity.link.sequenceNumber < 2)
          (.valueError <| "agent receipt: continuity: expected prior digest requires " ++
            "sequence_number > 1")
        let prev := (continuity.link.prevMessageDigestSha256Hex.map (·.val)).getD ""
        raiseIf (platform.stripLower prev ≠ expected)
          (.valueError <| "agent receipt: continuity: prev_message_digest_sha256_hex does not " ++
            "match expected prior digest")

/-- The key, the signature and the Ed25519 check, with the errors of a role. -/
def verifySignature (publicKeyHex signatureHex digest : String) (badMaterial badSignature : PyExc) :
    Except PyExc Unit := do
  let publicKey ← bytesFromHex publicKeyHex
  let signature ← bytesFromHex signatureHex
  raiseIf (publicKey.size ≠ 32 ∨ signature.size ≠ 64) badMaterial
  raiseIf (platform.ed25519Verify publicKey signature digest = false) badSignature

def verifyOperatorAttestation (receipt : AgentReceipt) (digest : String) (options : VerifyOptions)
    (verifyOperatorAgainstRegistry : Option Bool) : Except PyExc Unit :=
  match receipt.operatorAttestation with
  | none => .ok ()
  | some attestation => do
      raiseIf (pyStrip attestation.operatorDid.val ≠
          pyStrip receipt.authorization.agent.operatorDid.val)
        (.valueError <| "agent receipt: operator_attestation.operator_did must match " ++
          "authorization.agent.operator_did")
      raiseIf (attestation.messageDigestSha256Hex.val ≠ receipt.messageDigestSha256Hex)
        (.valueError <| "agent receipt: operator_attestation message_digest_sha256_hex must " ++
          "match gateway digest")
      let enforceRegistry := verifyOperatorAgainstRegistry = some true ∨
        (verifyOperatorAgainstRegistry ≠ some false ∧
          foldOption platform options.trustMode = "tenant_registry")
      raiseIf (enforceRegistry ∧ allowsOperatorPublicKeyHex platform
          attestation.signingPublicKeyEd25519Hex.val options.trustedOperatorPublicKeys = false)
        (.valueError <| "agent receipt: operator_attestation signing key is not in the " ++
          "configured tenant operator registry")
      verifySignature platform attestation.signingPublicKeyEd25519Hex.val
        attestation.ed25519SignatureHex.val digest
        (.valueError "agent receipt: invalid operator attestation signing material")
        (.valueError "agent receipt: operator attestation ed25519 signature verification failed")

def requirePrimaryValidity (receipt : AgentReceipt) : Except PyExc Unit :=
  match receipt.evidence with
  | none => .error (.valueError "agent receipt: primary validity requires evidence")
  | some evidence => do
      let digest := platform.stripLower
        ((evidence.payeeSignatureDigestSha256Hex.map (·.val)).getD "")
      raiseIf (digest = "")
        (.valueError <| "agent receipt: primary validity requires " ++
          "evidence.payee_signature_digest_sha256_hex")
      let _ ← requireHex64 digest "evidence.payee_signature_digest_sha256_hex"
      raiseIf (∃ payment ∈ receipt.payment,
          platform.stripLower payment.intentId.val ≠
            platform.stripLower receipt.references.intentId.val)
        (.valueError <| "agent receipt: primary validity: payment.intent_id must match " ++
          "references.intent_id")
      -- neither payee is blank
      raiseIf (∃ merchant ∈ receipt.merchant, merchant.payeeDid ≠ evidence.payeeDid)
        (.valueError <| "agent receipt: primary validity: evidence.payee_did must match " ++
          "merchant.payee_did")

def requireAttestedValidity (receipt : AgentReceipt) (trusted : Option (List String)) :
    Except PyExc Unit :=
  match receipt.operatorAttestation with
  | none =>
      .error (.valueError "agent receipt: attested validity requires operator_attestation")
  | some attestation =>
      raiseIf (allowsOperatorPublicKeyHex platform attestation.signingPublicKeyEd25519Hex.val
          trusted = false)
        (.valueError <| "agent receipt: attested validity requires operator_attestation signing " ++
          "key in the configured tenant operator registry")

def requireValidityTier (receipt : AgentReceipt) (trusted : Option (List String)) :
    ValidityTier → Except PyExc Unit
  | .operational => .ok ()
  | .primary => requirePrimaryValidity platform receipt
  | .attested => do
      requirePrimaryValidity platform receipt
      requireAttestedValidity platform receipt trusted

/-- The checks of a normalized receipt. -/
def checkReceipt (options : VerifyOptions) (requiredTier : ValidityTier)
    (receipt : AgentReceipt) : Except PyExc Unit := do
  let verifyOperatorAgainstRegistry :=
    if requiredTier = .attested then some true else options.verifyOperatorAgainstRegistry
  verifyContinuityExpectedPrior platform receipt options.expectedPriorMessageDigestHex
  raiseIf (allowsSigningPublicKeyHex platform receipt.signingPublicKeyEd25519Hex
      options.expectedSigningPublicKeys = false)
    (.valueError <| "agent receipt: signing_public_key_ed25519_hex is not in the configured " ++
      "trusted key set")
  let digest := platform.sha256Hex (receipt.canonicalBytes platform.floatText)
  raiseIf (receipt.signingAlgorithm ≠ agentReceiptSigningAlgorithmEd25519)
    (.valueError "agent receipt: signing_algorithm must be 'ed25519-sha256-json-v1'")
  let _ ← requireHex64 receipt.messageDigestSha256Hex "message_digest_sha256_hex"
  raiseIf (receipt.messageDigestSha256Hex ≠ digest)
    (.valueError "agent receipt: message digest mismatch")
  verifySignature platform receipt.signingPublicKeyEd25519Hex receipt.ed25519SignatureHex digest
    (.valueError "agent receipt: invalid signing material")
    (.valueError "agent receipt: ed25519 signature verification failed")
  verifyOperatorAttestation platform receipt digest options verifyOperatorAgainstRegistry
  requireValidityTier platform receipt options.trustedOperatorPublicKeys requiredTier

def verifyAgentReceiptV1 (receipt : Mapping) (options : VerifyOptions) :
    Except PyExc AgentReceipt := do
  let requiredTier ← normalizeValidityTier platform options.requiredValidityTier
  let normalized ← normalizeReceipt platform receipt
  checkReceipt platform options requiredTier normalized
  return normalized

end Verify

/-! ## What is accepted -/

section Accepted

variable {platform : Platform} {options : VerifyOptions}

theorem checkReceipt_digest {requiredTier : ValidityTier} {receipt : AgentReceipt}
    (hcheck : checkReceipt platform options requiredTier receipt = .ok ()) :
    receipt.messageDigestSha256Hex =
        platform.sha256Hex (receipt.canonicalBytes platform.floatText) ∧
      receipt.signingAlgorithm = agentReceiptSigningAlgorithmEd25519 := by
  simp only [checkReceipt, except_bind_eq_ok, raiseIf_eq_ok, exists_const, not_not] at hcheck
  obtain ⟨-, -, -, halgorithm, -, -, hdigest, -⟩ := hcheck
  exact ⟨hdigest, halgorithm⟩

/-- The digest is checked before the signature. -/
theorem checkReceipt_mismatch {requiredTier : ValidityTier} {receipt : AgentReceipt}
    {digest : Hex64}
    (hprior : verifyContinuityExpectedPrior platform receipt
      options.expectedPriorMessageDigestHex = .ok ())
    (hkeys : allowsSigningPublicKeyHex platform receipt.signingPublicKeyEd25519Hex
      options.expectedSigningPublicKeys = true)
    (halgorithm : receipt.signingAlgorithm = agentReceiptSigningAlgorithmEd25519)
    (hhex : receipt.messageDigestSha256Hex = digest.val)
    (hdigest : digest.val ≠ platform.sha256Hex (receipt.canonicalBytes platform.floatText)) :
    checkReceipt platform options requiredTier receipt =
      .error (.valueError "agent receipt: message digest mismatch") := by
  have hread : requireHex64 digest.val "message_digest_sha256_hex" = .ok digest :=
    checked_eq_ok.mpr rfl
  simp only [checkReceipt, hprior, hkeys, halgorithm, hhex, hread, raiseIf, except_ok_bind,
    ne_eq, not_true_eq_false, Bool.true_eq_false, if_false, hdigest, not_false_eq_true, if_true]
  rfl

/-- An accepted receipt normalizes, and passes the checks of its tier. -/
theorem verifyAgentReceiptV1_eq_ok {receipt : Mapping} {normalized : AgentReceipt} :
    verifyAgentReceiptV1 platform receipt options = .ok normalized ↔
      normalizeReceipt platform receipt = .ok normalized ∧
        ∃ requiredTier,
          normalizeValidityTier platform options.requiredValidityTier = .ok requiredTier ∧
            checkReceipt platform options requiredTier normalized = .ok () := by
  simp only [verifyAgentReceiptV1, except_bind_eq_ok, except_pure_eq_ok]
  constructor
  · rintro ⟨requiredTier, htier, normalized, hnormalize, done, hcheck, rfl⟩
    exact ⟨hnormalize, requiredTier, htier, hcheck⟩
  · rintro ⟨hnormalize, requiredTier, htier, hcheck⟩
    exact ⟨requiredTier, htier, normalized, hnormalize, (), hcheck, rfl⟩

end Accepted

end PaybondKit.Receipt
