import PaybondKit.Receipt.SignedPart

/-!
# What acceptance of a receipt means

The signature, the identifier and the operator's attestation of an accepted receipt hold, and
so do the two trust sets, with one exception: a caller who expects none of the signing keys
gets any key accepted.
-/

namespace PaybondKit.Receipt

open Agent (PyExc)

section Meaning

variable (platform : Platform)

/-- The signature over the digest verifies under the key. -/
def Signs (publicKeyHex signatureHex digest : String) : Prop :=
  ∃ publicKey signature, bytesFromHex publicKeyHex = .ok publicKey ∧ publicKey.size = 32 ∧
    bytesFromHex signatureHex = .ok signature ∧ signature.size = 64 ∧
    platform.ed25519Verify publicKey signature digest = true

/-- The key is one of the keys, but for case and the space around it. -/
def Listed (keys : List String) (publicKeyHex : String) : Prop :=
  ∃ key ∈ keys, platform.stripLower key = platform.stripLower publicKeyHex

/-- The identifier of an action is derived from its intent and tool call, that of a settled
intent is the intent's. -/
def DerivedId (receipt : AgentReceipt) : Prop :=
  match receipt.scope with
  | .action => ∃ execution, receipt.execution = some execution ∧
      receipt.receiptId =
        actionReceiptId platform receipt.references.intentId.val execution.toolCallId.val
  | .intentTerminal => receipt.receiptId = receipt.references.intentId.val

/-- The flag asks for the registry, or the trust mode does and the flag does not forbid it, or
the tier does. -/
def RegistryRequired (options : VerifyOptions) : Prop :=
  options.verifyOperatorAgainstRegistry = some true ∨
    (options.verifyOperatorAgainstRegistry ≠ some false ∧
      foldOption platform options.trustMode = "tenant_registry") ∨
    normalizeValidityTier platform options.requiredValidityTier = .ok .attested

/-- The operator of the receipt attests its digest, with a key of the registry if that is
required. -/
structure Attests (options : VerifyOptions) (receipt : AgentReceipt)
    (attestation : OperatorAttestation) : Prop where
  operatorDid : attestation.operatorDid = receipt.authorization.agent.operatorDid
  messageDigest : attestation.messageDigestSha256Hex.val = receipt.messageDigestSha256Hex
  signature : Signs platform attestation.signingPublicKeyEd25519Hex.val
    attestation.ed25519SignatureHex.val receipt.messageDigestSha256Hex
  registry : RegistryRequired platform options →
    Listed platform (options.trustedOperatorPublicKeys.getD [])
      attestation.signingPublicKeyEd25519Hex.val

/-- What a caller takes an accepted receipt for. -/
structure Authentic (options : VerifyOptions) (receipt : AgentReceipt) : Prop where
  messageDigest : receipt.messageDigestSha256Hex =
    platform.sha256Hex (receipt.canonicalBytes platform.floatText)
  signature : Signs platform receipt.signingPublicKeyEd25519Hex receipt.ed25519SignatureHex
    receipt.messageDigestSha256Hex
  expectedKey : ∀ keys, options.expectedSigningPublicKeys = some keys →
    Listed platform keys receipt.signingPublicKeyEd25519Hex
  receiptId : DerivedId platform receipt
  operator : ∀ attestation ∈ receipt.operatorAttestation,
    Attests platform options receipt attestation

end Meaning

section Checks

variable {platform : Platform} {options : VerifyOptions} {receipt : AgentReceipt}

theorem allowsPublicKeyHex_iff {publicKeyHex : String} {keys : List String} :
    allowsPublicKeyHex platform publicKeyHex keys = true ↔ Listed platform keys publicKeyHex := by
  simp [allowsPublicKeyHex, Listed]

theorem verifySignature_eq_ok {publicKeyHex signatureHex digest : String}
    {badMaterial badSignature : PyExc} {done : Unit} :
    verifySignature platform publicKeyHex signatureHex digest badMaterial badSignature = .ok done ↔
      Signs platform publicKeyHex signatureHex digest := by
  simp only [verifySignature, except_bind_eq_ok, raiseIf_eq_ok, exists_const, not_or, not_not,
    Bool.not_eq_false]
  constructor
  · rintro ⟨publicKey, hkey, signature, hsignature, ⟨hkeySize, hsize⟩, hverify⟩
    exact ⟨publicKey, signature, hkey, hkeySize, hsignature, hsize, hverify⟩
  · rintro ⟨publicKey, signature, hkey, hkeySize, hsignature, hsize, hverify⟩
    exact ⟨publicKey, hkey, signature, hsignature, ⟨hkeySize, hsize⟩, hverify⟩

theorem derivedId_of_verifyReceiptId (hid : verifyReceiptId platform receipt = .ok ()) :
    DerivedId platform receipt := by
  unfold verifyReceiptId at hid
  unfold DerivedId
  cases hscope : receipt.scope with
  | action =>
      rw [hscope] at hid
      cases hexecution : receipt.execution with
      | none =>
          rw [hexecution] at hid
          cases hid
      | some execution =>
          rw [hexecution] at hid
          simp only [except_bind_eq_ok, raiseIf_eq_ok, exists_const, not_not] at hid
          exact ⟨execution, rfl, hid.1⟩
  | intentTerminal =>
      rw [hscope] at hid
      simp only [except_bind_eq_ok, raiseIf_eq_ok, exists_const, not_not] at hid
      exact hid.1

/-- A set of expected keys lists the key, unless it is empty. -/
theorem allowsSigningPublicKeyHex_iff {publicKeyHex : String} {expected : Option (List String)} :
    allowsSigningPublicKeyHex platform publicKeyHex expected = true ↔
      ∀ keys, expected = some keys → keys ≠ [] → Listed platform keys publicKeyHex := by
  rw [allowsSigningPublicKeyHex, Bool.or_eq_true, allowsPublicKeyHex_iff, List.isEmpty_iff]
  constructor
  · rintro (hempty | hlisted) keys rfl hkeys
    · exact absurd hempty hkeys
    · exact hlisted
  · intro hlisted
    cases expected with
    | none => exact .inl rfl
    | some keys =>
        by_cases hkeys : keys = []
        · exact .inl hkeys
        · exact .inr (hlisted keys rfl hkeys)

/-- The registry is asked for what it is required for. -/
theorem attests_of_verifyOperatorAttestation {requiredTier : ValidityTier}
    (htier : normalizeValidityTier platform options.requiredValidityTier = .ok requiredTier)
    (hcheck : verifyOperatorAttestation platform receipt receipt.messageDigestSha256Hex options
      (if requiredTier = .attested then some true else options.verifyOperatorAgainstRegistry) =
        .ok ()) :
    ∀ attestation ∈ receipt.operatorAttestation, Attests platform options receipt attestation := by
  intro attestation hattestation
  unfold verifyOperatorAttestation at hcheck
  rw [hattestation] at hcheck
  simp only [except_bind_eq_ok, raiseIf_eq_ok, exists_const, not_not, verifySignature_eq_ok]
    at hcheck
  obtain ⟨hoperator, hdigest, hregistry, hsigns⟩ := hcheck
  rw [attestation.operatorDid.property.1,
    receipt.authorization.agent.operatorDid.property.1] at hoperator
  refine ⟨Subtype.ext hoperator, hdigest, hsigns, fun hrequired => ?_⟩
  rw [not_and, Bool.not_eq_false, allowsOperatorPublicKeyHex, allowsPublicKeyHex_iff] at hregistry
  refine hregistry ?_
  rcases hrequired with hflag | ⟨hflag, hmode⟩ | hattested
  · left
    split
    · rfl
    · exact hflag
  · right
    refine ⟨?_, hmode⟩
    split
    · simp
    · exact hflag
  · left
    rw [if_pos (Except.ok.inj (htier.symm.trans hattested))]

/-- An accepted receipt is authentic, unless an empty set of keys was expected. -/
theorem authentic_iff {input : Mapping}
    (haccepted : verifyAgentReceiptV1 platform input options = .ok receipt) :
    Authentic platform options receipt ↔ options.expectedSigningPublicKeys ≠ some [] := by
  obtain ⟨hnormalize, requiredTier, htier, hcheck⟩ := verifyAgentReceiptV1_eq_ok.mp haccepted
  have hid := derivedId_of_verifyReceiptId (normalizeReceipt_eq_ok.mp hnormalize).receiptIdHolds
  obtain ⟨hdigest, -⟩ := checkReceipt_digest hcheck
  rw [checkReceipt, ← hdigest] at hcheck
  simp only [except_bind_eq_ok, raiseIf_eq_ok, exists_const, not_not, verifySignature_eq_ok,
    Bool.not_eq_false] at hcheck
  obtain ⟨_, -, hkeys, -, _, -, -, hsigns, _, hoperator, -⟩ := hcheck
  constructor
  · intro hauthentic hempty
    obtain ⟨key, hkey, -⟩ := hauthentic.expectedKey [] hempty
    cases hkey
  · intro hsupplied
    have hlisted := allowsSigningPublicKeyHex_iff.mp hkeys
    refine ⟨hdigest, hsigns, fun keys hexpected => hlisted keys hexpected ?_, hid,
      attests_of_verifyOperatorAttestation htier hoperator⟩
    rintro rfl
    exact hsupplied hexpected

theorem authentic_settled :
    Authentic (terminalPlatform fun _ => signedFirst.digest.val) {}
      (terminalReceipt none [] signedFirst) :=
  (authentic_iff (accepted_terminal rfl rfl)).mpr (fun h => nomatch h)

/-- No key is expected, and yet the receipt of some key is accepted. -/
theorem verifyAgentReceiptV1_accepts_unexpected :
    let platform := terminalPlatform fun _ => signedFirst.digest.val
    let receipt := terminalReceipt none [] signedFirst
    let options : VerifyOptions := { expectedSigningPublicKeys := some [] }
    verifyAgentReceiptV1 platform receipt.toMapping options = .ok receipt ∧
      ¬Listed platform [] receipt.signingPublicKeyEd25519Hex ∧
      ¬Authentic platform options receipt := by
  have haccepted : verifyAgentReceiptV1 (terminalPlatform fun _ => signedFirst.digest.val)
      (terminalReceipt none [] signedFirst).toMapping { expectedSigningPublicKeys := some [] } =
        .ok (terminalReceipt none [] signedFirst) :=
    accepted_terminal rfl rfl
  have hlisted : ¬Listed (terminalPlatform fun _ => signedFirst.digest.val) []
      (terminalReceipt none [] signedFirst).signingPublicKeyEd25519Hex := by
    rintro ⟨key, hkey, -⟩
    cases hkey
  exact ⟨haccepted, hlisted, fun hauthentic => hlisted (hauthentic.expectedKey [] rfl)⟩

end Checks

end PaybondKit.Receipt
