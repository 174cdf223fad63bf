import PaybondKit.Agent.Calls
import PaybondKit.Foundation.Dialogue
import PaybondKit.Policy.Digest
import PaybondKit.Receipt.SignedPart

/-!
# From a draft to a receipt

The dictionary form of the draft that the interceptor composes, and its digest. The
composer normalizes the draft before it hands it out, so that a signature over the digest
is all that a receipt still needs.
-/

namespace PaybondKit.Receipt

open Agent

/-! ## The dictionary form -/

def draftAgent (agent : ReceiptAgent) : PyFields where
  entries :=
    [("operator_did", some (.str agent.operatorDid)),
      ("model_family", some (.str agent.modelFamily)),
      ("model_instance_id", agent.modelInstanceId.map .str),
      ("config_hash_sha256_hex", some (.str agent.configHashSha256Hex)),
      ("prompt_hash_sha256_hex", some (.str agent.promptHashSha256Hex))]
  nodup := by simp

def draftPolicy (policy : ReceiptPolicy) : PyFields where
  entries :=
    [("template_id", some (.str policy.templateId)),
      ("content_digest_sha256_hex", some (.str policy.contentDigestSha256Hex))]
  nodup := by simp

def draftAuthorization (authorization : ReceiptAuthorization) : PyFields where
  entries :=
    [("principal_did", some (.str authorization.principalDid)),
      ("actor_subject", some (.str authorization.actorSubject)),
      ("agent", some (.dict (draftAgent authorization.agent).items)),
      ("decision_id", some (.str authorization.decisionId)),
      ("audit_id", some (.str authorization.auditId)),
      ("policy", some (.dict (draftPolicy authorization.policy).items)),
      ("authorized_at", some (.str authorization.authorizedAt)),
      ("requested_spend_cents", some ((authorization.requestedSpendCents.map .int).getD .none)),
      ("currency", some (.str authorization.currency))]
  nodup := by simp

def draftExecution (execution : ReceiptExecution) : PyFields where
  entries :=
    [("run_id", some (.str execution.runId)),
      ("tool_call_id", some (.str execution.toolCallId)),
      ("tool_name", some (.str execution.toolName)),
      ("operation", some (.str execution.operation)),
      ("arguments_digest_sha256_hex", some (.str execution.argumentsDigestSha256Hex)),
      ("result_digest_sha256_hex", execution.resultDigestSha256Hex.map .str),
      ("outcome", some (.str execution.outcome)),
      ("started_at", some (.str execution.startedAt)),
      ("completed_at", some (.str execution.completedAt)),
      ("duration_ms", some (.int execution.durationMs))]
  nodup := by simp

def draftOutcome (outcome : ReceiptOutcome) : PyFields where
  entries :=
    [("harbor_state", some (.str outcome.harborState)),
      ("spend_reservation_outcome", some (.str outcome.spendReservationOutcome)),
      ("predicate_passed", outcome.predicatePassed.map .bool)]
  nodup := by simp

def draftMerchant (merchant : ReceiptMerchant) : PyFields where
  entries :=
    [("payee_did", some (.str merchant.payeeDid)),
      ("vendor_id", merchant.vendorId.map .str)]
  nodup := by simp

def draftEvidence (evidence : ReceiptEvidence) : PyFields where
  entries :=
    [("completion_preset_id", some (.str evidence.completionPresetId)),
      ("payload_digest_sha256_hex", some (.str evidence.payloadDigestSha256Hex)),
      ("predicate_passed", some (.bool evidence.predicatePassed)),
      ("payee_did", some (.str evidence.payeeDid)),
      ("artifacts_digest_sha256_hex", evidence.artifactsDigestSha256Hex.map .str)]
  nodup := by simp

def draftFields (draft : AgentReceiptDraft) : PyFields where
  entries :=
    [("schema_version", some (.int draft.schemaVersion)),
      ("kind", some (.str draft.kind)),
      ("receipt_version", some (.str draft.receiptVersion)),
      ("scope", some (.str draft.scope)),
      ("receipt_id", some (.str draft.receiptId)),
      ("issued_at", some (.str draft.issuedAt)),
      ("tenant_id", some (.str draft.tenantId)),
      ("authorization", some (.dict (draftAuthorization draft.authorization).items)),
      ("execution", some (.dict (draftExecution draft.execution).items)),
      ("outcome", some (.dict (draftOutcome draft.outcome).items)),
      ("references",
        some (.dict [("intent_id", .str draft.intentId), ("settlement_receipt_id", .none)])),
      ("external_attestations", some (.list draft.externalAttestations)),
      ("signing_algorithm", some (.str draft.signingAlgorithm)),
      ("message_digest_sha256_hex", some (.str draft.messageDigestSha256Hex)),
      ("signing_public_key_ed25519_hex", some (.str draft.signingPublicKeyEd25519Hex)),
      ("ed25519_signature_hex", some (.str draft.ed25519SignatureHex)),
      ("merchant", draft.merchant.map fun merchant => .dict (draftMerchant merchant).items),
      ("evidence", draft.evidence.map fun evidence => .dict (draftEvidence evidence).items)]
  nodup := by simp

/-- The draft as the dictionary that it is in the source. -/
def draftMapping (draft : AgentReceiptDraft) : Mapping := (draftFields draft).mapping

section Digest

variable (platform : Platform)

/-- `value_digest_sha256_hex`. -/
def valueDigestSha256Hex (value : PyValue) : String :=
  platform.sha256Hex (jsonDumpsBytes compactStyle
    ((Policy.canonicalizeJson value).toJson platform.floatText))

def agentReceiptMessageDigestSha256Hex (receipt : Mapping) : Except PyExc String := do
  let normalized ← normalizeReceipt platform receipt
  return platform.sha256Hex (normalized.canonicalBytes platform.floatText)

/-- The middleware's platform, with the verifier's digests and letter case. -/
def composing (surroundings : Agent.Platform) : Agent.Platform :=
  { surroundings with
    valueDigestSha256Hex value := .ok (valueDigestSha256Hex platform value)
    actionReceiptId := actionReceiptId platform
    agentReceiptMessageDigestSha256Hex draft :=
      agentReceiptMessageDigestSha256Hex platform (draftMapping draft)
    lower := platform.lower
    pyStr := platform.str }

end Digest

/-! ## Signing -/

/-- An Ed25519 key pair: what it signs verifies under its public key. -/
structure KeyPair (platform : Platform) where
  publicKey : ByteArray
  sign : String → ByteArray
  publicKey_size : publicKey.size = 32
  sign_size : ∀ digest, (sign digest).size = 64
  correct : ∀ digest, platform.ed25519Verify publicKey (sign digest) digest = true

/-- The draft with the key and its signature filled in. -/
def signDraft {platform : Platform} (pair : KeyPair platform) (draft : AgentReceiptDraft) :
    AgentReceiptDraft :=
  { draft with
    signingPublicKeyEd25519Hex := hexOfBytes pair.publicKey
    ed25519SignatureHex := hexOfBytes (pair.sign draft.messageDigestSha256Hex) }

section Laws

variable {platform : Platform} (laws : platform.LowerLaws)
include laws

theorem foldOption_none : foldOption platform none = "" :=
  Platform.stripLower_eq_self laws (by simp)

/-- What a key pair has signed passes all checks, when it is the digest of the receipt. -/
theorem checkReceipt_signed (pair : KeyPair platform) {receipt : AgentReceipt}
    (hdigest : receipt.messageDigestSha256Hex =
      platform.sha256Hex (receipt.canonicalBytes platform.floatText))
    (hhex : hex64Re receipt.messageDigestSha256Hex = true)
    (halgorithm : receipt.signingAlgorithm = agentReceiptSigningAlgorithmEd25519)
    (hpublicKey : receipt.signingPublicKeyEd25519Hex = hexOfBytes pair.publicKey)
    (hsignature : receipt.ed25519SignatureHex =
      hexOfBytes (pair.sign receipt.messageDigestSha256Hex))
    (hoperator : receipt.operatorAttestation = none) :
    checkReceipt platform {} .operational receipt = .ok () := by
  have hprior : verifyContinuityExpectedPrior platform receipt none = .ok () := by
    rw [verifyContinuityExpectedPrior]
    exact if_pos (foldOption_none laws)
  have hallowed : allowsSigningPublicKeyHex platform receipt.signingPublicKeyEd25519Hex none =
      true := by
    simp [allowsSigningPublicKeyHex]
  have hread : requireHex64 receipt.messageDigestSha256Hex "message_digest_sha256_hex" =
      .ok ⟨_, hhex⟩ := checked_eq_ok.mpr rfl
  have hverified : ∀ badMaterial badSignature,
      verifySignature platform receipt.signingPublicKeyEd25519Hex receipt.ed25519SignatureHex
        receipt.messageDigestSha256Hex badMaterial badSignature = .ok () := by
    intro badMaterial badSignature
    simp only [verifySignature, hpublicKey, hsignature, bytesFromHex_hexOfBytes, except_bind_eq_ok,
      raiseIf_eq_ok, Except.ok.injEq, exists_eq_left', pair.publicKey_size, pair.sign_size,
      pair.correct]
    simp
  have hattestation : ∀ options registry, verifyOperatorAttestation platform receipt
      receipt.messageDigestSha256Hex options registry = .ok () := by
    intro options registry
    rw [verifyOperatorAttestation, hoperator]
  simp only [checkReceipt, ← hdigest, except_bind_eq_ok, raiseIf_eq_ok, exists_const, not_not]
  exact ⟨(), hprior, by simp [hallowed], halgorithm, _, hread, trivial, (), hverified _ _, (),
    hattestation _ _, rfl⟩

end Laws

/-- Signing a receipt changes three fields of what it normalizes to. -/
theorem Normalizes.signed {platform : Platform} {receipt receipt' : Mapping}
    {normalized : AgentReceipt} {digest publicKey signature : String}
    (h : Normalizes platform receipt normalized)
    (hget : ∀ key, key ≠ "message_digest_sha256_hex" → key ≠ "signing_public_key_ed25519_hex" →
      key ≠ "ed25519_signature_hex" → receipt'.get? key = receipt.get? key)
    (hdigest : receipt'.get? "message_digest_sha256_hex" = some (.str digest))
    (hpublicKey : receipt'.get? "signing_public_key_ed25519_hex" = some (.str publicKey))
    (hsignature : receipt'.get? "ed25519_signature_hex" = some (.str signature)) :
    Normalizes platform receipt'
      { normalized with
        messageDigestSha256Hex := platform.stripLower digest
        signingPublicKeyEd25519Hex := platform.stripLower publicKey
        ed25519SignatureHex := platform.stripLower signature } where
  schemaVersion := by simpa [hget] using h.schemaVersion
  kind := by simpa [requireConstant, hget] using h.kind
  receiptVersion := by simpa [requireConstant, hget] using h.receiptVersion
  scope := by simpa [Platform.strItem, item, hget] using h.scope
  receiptId := by simpa [Platform.strItem, item, hget] using h.receiptId
  receiptId_ne := h.receiptId_ne
  tenantId := by simpa [Platform.strItem, item, hget] using h.tenantId
  authorization := by simpa [item, hget] using h.authorization
  references := by simpa [item, hget] using h.references
  externalAttestations := by simpa [OrderedDict.getValue, hget] using h.externalAttestations
  mandate := h.mandate
  outcome := by simpa [item, hget] using h.outcome
  execution := by
    have hsame : receipt'.getValue "execution" = receipt.getValue "execution" := by
      simp [OrderedDict.getValue, hget]
    have hexecution : ∀ scope, executionOf platform receipt' scope =
        executionOf platform receipt scope := by
      intro scope
      cases scope <;> simp only [executionOf, hsame]
    rw [hexecution]
    exact h.execution
  issuedAt := by simpa [Platform.strItem, item, hget] using h.issuedAt
  signingAlgorithm := by simpa [hget] using h.signingAlgorithm
  messageDigest := ⟨digest, by simp [Platform.strItem, item, hdigest], rfl⟩
  publicKey := ⟨publicKey, by simp [Platform.strItem, item, hpublicKey], rfl⟩
  signature := ⟨signature, by simp [Platform.strItem, item, hsignature], rfl⟩
  merchant := by simpa [OrderedDict.getValue, hget] using h.merchant
  evidence := by simpa [OrderedDict.getValue, hget] using h.evidence
  payment := by simpa [OrderedDict.getValue, hget] using h.payment
  continuity := by simpa [OrderedDict.getValue, hget] using h.continuity
  operatorAttestation := by simpa [OrderedDict.getValue, hget] using h.operatorAttestation
  receiptIdHolds := h.receiptIdHolds

/-! ## What a draft normalizes to -/

section Draft

variable {platform : Platform} {draft : AgentReceiptDraft} {normalized : AgentReceipt}

theorem get?_draftMapping (draft : AgentReceiptDraft) (key : String) :
    (draftMapping draft).get? key = OrderedDict.fieldValue key (draftFields draft).entries :=
  OrderedDict.Fields.get?_mapping _ key

/-- The fields that signing fills in are three of the draft's. -/
theorem get?_draftMapping_signed (digest publicKey signature : String) {key : String}
    (hdigest : key ≠ "message_digest_sha256_hex")
    (hpublicKey : key ≠ "signing_public_key_ed25519_hex")
    (hsignature : key ≠ "ed25519_signature_hex") :
    (draftMapping { draft with
      messageDigestSha256Hex := digest
      signingPublicKeyEd25519Hex := publicKey
      ed25519SignatureHex := signature }).get? key = (draftMapping draft).get? key := by
  have hdrop : ∀ draft : AgentReceiptDraft, (draftMapping draft).get? key =
      OrderedDict.fieldValue key
        ((draftFields draft).entries.take 13 ++ (draftFields draft).entries.drop 16) := by
    intro draft
    have hfront := fun back => OrderedDict.fieldValue_append_cons_ne hdigest.symm
      (some (PyValue.str draft.messageDigestSha256Hex)) ((draftFields draft).entries.take 13) back
    have hmiddle := fun back => OrderedDict.fieldValue_append_cons_ne hpublicKey.symm
      (some (PyValue.str draft.signingPublicKeyEd25519Hex))
      ((draftFields draft).entries.take 13) back
    have hback := fun back => OrderedDict.fieldValue_append_cons_ne hsignature.symm
      (some (PyValue.str draft.ed25519SignatureHex)) ((draftFields draft).entries.take 13) back
    rw [get?_draftMapping, ← hback, ← hmiddle, ← hfront]
    rfl
  rw [hdrop, hdrop]
  rfl

theorem get?_draftMapping_signing (draft : AgentReceiptDraft) :
    (draftMapping draft).get? "message_digest_sha256_hex" =
        some (.str draft.messageDigestSha256Hex) ∧
      (draftMapping draft).get? "signing_public_key_ed25519_hex" =
        some (.str draft.signingPublicKeyEd25519Hex) ∧
      (draftMapping draft).get? "ed25519_signature_hex" = some (.str draft.ed25519SignatureHex) := by
  refine ⟨?_, ?_, ?_⟩ <;> simp [get?_draftMapping, draftFields]

/-- A draft that normalizes still does when it is signed. -/
theorem Normalizes.signDraft (pair : KeyPair platform)
    (h : Normalizes platform (draftMapping { draft with messageDigestSha256Hex := "" }) normalized) :
    Normalizes platform (draftMapping (signDraft pair draft))
      { normalized with
        messageDigestSha256Hex := platform.stripLower draft.messageDigestSha256Hex
        signingPublicKeyEd25519Hex := platform.stripLower (hexOfBytes pair.publicKey)
        ed25519SignatureHex :=
          platform.stripLower (hexOfBytes (pair.sign draft.messageDigestSha256Hex)) } := by
  obtain ⟨hdigest, hpublicKey, hsignature⟩ := get?_draftMapping_signing (Receipt.signDraft pair draft)
  refine h.signed (fun key hkey hkey' hkey'' => ?_) hdigest hpublicKey hsignature
  rw [Receipt.signDraft, get?_draftMapping_signed _ _ _ hkey hkey' hkey'']
  exact (get?_draftMapping_signed "" draft.signingPublicKeyEd25519Hex draft.ed25519SignatureHex
    hkey hkey' hkey'').symm

theorem normalizeExecution_draft {execution : ReceiptExecution} {read : ExecutionSection}
    (hread : normalizeExecution platform (.dict (draftExecution execution).items) = .ok read) :
    read.toolCallId.val = pyStrip execution.toolCallId ∧
      read.argumentsDigestSha256Hex.val =
        platform.stripLower execution.argumentsDigestSha256Hex := by
  simp only [normalizeExecution, asMapping_items, except_bind_eq_ok, Platform.strItem, item,
    OrderedDict.Fields.get?_mapping, draftExecution, OrderedDict.fieldValue_cons_self,
    OrderedDict.fieldValue_cons_ne, ne_eq, String.reduceEq, not_false_eq_true, Functor.map,
    Except.map, Platform.str_str, Except.ok.injEq, exists_eq_left', requireText_eq_ok,
    requireHex64_eq_ok, except_pure_eq_ok] at hread
  obtain ⟨toolCallId, htoolCallId, argumentsDigest, harguments, outcome, -, runId, -, toolName, -,
    operation, -, startedAt, -, completedAt, -, result, -, duration, -, tee, -, rfl⟩ := hread
  exact ⟨htoolCallId.symm, harguments.symm⟩

/-- What normalizing a draft keeps of it. -/
structure ReadsDraft (platform : Platform) (draft : AgentReceiptDraft)
    (normalized : AgentReceipt) : Prop where
  receiptId : normalized.receiptId = platform.stripLower draft.receiptId
  signingAlgorithm : normalized.signingAlgorithm = agentReceiptSigningAlgorithmEd25519
  execution : ∃ execution, normalized.execution = some execution ∧
    execution.toolCallId.val = pyStrip draft.execution.toolCallId ∧
    execution.argumentsDigestSha256Hex.val =
      platform.stripLower draft.execution.argumentsDigestSha256Hex
  operatorAttestation : normalized.operatorAttestation = none

theorem Normalizes.readsDraft (laws : platform.LowerLaws) (hscope : draft.scope = "action")
    (halgorithm : draft.signingAlgorithm = agentReceiptSigningAlgorithmEd25519)
    (h : Normalizes platform (draftMapping draft) normalized) :
    ReadsDraft platform draft normalized where
  receiptId := by
    obtain ⟨text, htext, hid⟩ := h.receiptId
    simp only [Platform.strItem, item, get?_draftMapping, draftFields,
      OrderedDict.fieldValue_cons_self, OrderedDict.fieldValue_cons_ne, ne_eq, String.reduceEq,
      not_false_eq_true, Functor.map, Except.map, Platform.str_str, Except.ok.injEq] at htext
    rw [htext, hid]
  signingAlgorithm := by
    have hstrip : platform.stripLower agentReceiptSigningAlgorithmEd25519 =
        agentReceiptSigningAlgorithmEd25519 :=
      Platform.stripLower_eq_self laws (forall_mem_of_all (by decide))
    have hget : (draftMapping draft).get? "signing_algorithm" =
        some (.str draft.signingAlgorithm) := by
      simp [get?_draftMapping, draftFields]
    have hread := h.signingAlgorithm
    rw [hget, halgorithm, Option.getD_some, Platform.str_str, hstrip] at hread
    exact hread
  execution := by
    have hlower : platform.stripLower "action" = "action" :=
      Platform.stripLower_eq_self laws (forall_mem_of_all (by decide))
    obtain ⟨text, htext, hparse⟩ := h.scope
    simp only [Platform.strItem, item, get?_draftMapping, draftFields, hscope,
      OrderedDict.fieldValue_cons_self, OrderedDict.fieldValue_cons_ne, ne_eq, String.reduceEq,
      not_false_eq_true, Functor.map, Except.map, Platform.str_str, Except.ok.injEq] at htext
    rw [← htext, hlower] at hparse
    have haction : normalized.scope = .action := (Except.ok.inj hparse).symm
    have hexecution := h.execution
    rw [haction] at hexecution
    have hvalue : (draftMapping draft).getValue "execution" =
        .dict (draftExecution draft.execution).items := by
      simp [OrderedDict.getValue, get?_draftMapping, draftFields]
    rw [executionOf, hvalue] at hexecution
    obtain ⟨_, -, hrest⟩ := except_bind_eq_ok.mp hexecution
    obtain ⟨read, hread, hsome⟩ := except_bind_eq_ok.mp hrest
    obtain ⟨hcall, harguments⟩ := normalizeExecution_draft hread
    exact ⟨read, (Except.ok.inj hsome).symm, hcall, harguments⟩
  operatorAttestation := by
    have hvalue : (draftMapping draft).getValue "operator_attestation" = .none := by
      simp [OrderedDict.getValue, get?_draftMapping, draftFields, OrderedDict.fieldValue]
    have hread := h.operatorAttestation
    rw [hvalue] at hread
    exact (Except.ok.inj hread).symm

end Draft

/-! ## What the interceptor composes -/

section Compose

variable {platform : Platform} {surroundings : Agent.Platform} {binding : PaybondRunBinding}
variable {input : ReceiptInput} {draft : AgentReceiptDraft}

/-- A composed draft: what was normalized, with the digest of its canonical bytes. -/
structure Composed (platform : Platform) (binding : PaybondRunBinding) (input : ReceiptInput)
    (draft : AgentReceiptDraft) : Prop where
  normalizes : ∃ normalized, Normalizes platform
      (draftMapping { draft with messageDigestSha256Hex := "" }) normalized ∧
    draft.messageDigestSha256Hex =
      platform.sha256Hex (normalized.canonicalBytes platform.floatText)
  scope : draft.scope = "action"
  signingAlgorithm : draft.signingAlgorithm = agentReceiptSigningAlgorithmEd25519
  receiptId : draft.receiptId = actionReceiptId platform binding.intentId input.toolCallId
  toolCallId : draft.execution.toolCallId = input.toolCallId
  arguments : draft.execution.argumentsDigestSha256Hex =
    valueDigestSha256Hex platform input.arguments

theorem composed_of_composeReceiptDraft {agentContext : PaybondRunAgentContext}
    {context : ReceiptContext} {completedAtMs : ℕ}
    (hdraft : composeReceiptDraft (composing platform surroundings) binding agentContext context
      input completedAtMs = .ok draft) : Composed platform binding input draft := by
  simp only [composeReceiptDraft, composing, agentReceiptMessageDigestSha256Hex,
    except_bind_eq_ok, except_pure_eq_ok, Except.ok.injEq, exists_eq_left'] at hdraft
  obtain ⟨digest, ⟨normalized, hnormalize, hdigest⟩, rfl⟩ := hdraft
  exact ⟨⟨normalized, normalizeReceipt_eq_ok.mp hnormalize, hdigest.symm⟩, rfl, rfl, rfl, rfl, rfl⟩

theorem composed_of_reaches {past : List (Exchange Val PyExc)}
    (hreaches : (buildReceiptDraft (composing platform surroundings) binding input).Reaches past
      (.ret (some draft))) : Composed platform binding input draft := by
  unfold buildReceiptDraft at hreaches
  split at hreaches
  · cases hreaches
  split at hreaches
  · cases hreaches
  next agentContext _ _ context _ =>
    cases hreaches with
    | @answered _ _ answer _ _ hrest =>
        cases answer with
        | error exception => cases hrest
        | ok completedAtMs =>
            have hreturned : draft ∈ (composeReceiptDraft (composing platform surroundings) binding
                agentContext context input completedAtMs).toOption :=
              hrest.ret_inj
            exact composed_of_composeReceiptDraft (except_mem_toOption.mp hreturned)

/-- Every draft that is composed, signed with any key pair, is a receipt that the verifier
accepts. It reads the digest, the identifier and the tool call of the draft. -/
theorem verifyAgentReceiptV1_signDraft (laws : platform.LowerLaws) (hhex : platform.HexDigests)
    (pair : KeyPair platform) {past : List (Exchange Val PyExc)}
    (htrimmed : pyStrip input.toolCallId = input.toolCallId)
    (hreaches : (buildReceiptDraft (composing platform surroundings) binding input).Reaches past
      (.ret (some draft))) :
    ∃ receipt execution,
      verifyAgentReceiptV1 platform (draftMapping (signDraft pair draft)) {} = .ok receipt ∧
        receipt.messageDigestSha256Hex = draft.messageDigestSha256Hex ∧
        receipt.receiptId = draft.receiptId ∧ receipt.execution = some execution ∧
        execution.toolCallId.val = draft.execution.toolCallId ∧
        execution.argumentsDigestSha256Hex.val = draft.execution.argumentsDigestSha256Hex := by
  have hcomposed := composed_of_reaches hreaches
  obtain ⟨normalized, hnormalizes, hdigest⟩ := hcomposed.normalizes
  have hreads : ReadsDraft platform { draft with messageDigestSha256Hex := "" } normalized :=
    hnormalizes.readsDraft laws hcomposed.scope hcomposed.signingAlgorithm
  have hlower : ∀ bytes, platform.stripLower (platform.sha256Hex bytes) =
      platform.sha256Hex bytes := fun bytes =>
    Platform.stripLower_hex64 laws ⟨_, hhex bytes⟩
  have hsigned := hnormalizes.signDraft pair
  have hmessage : platform.stripLower draft.messageDigestSha256Hex =
      draft.messageDigestSha256Hex := by
    rw [hdigest, hlower]
  rw [hmessage, stripLower_hexOfBytes laws, stripLower_hexOfBytes laws] at hsigned
  obtain ⟨execution, hexecution, hcall, harguments⟩ := hreads.execution
  have htier : normalizeValidityTier platform none = .ok .operational := by
    rw [normalizeValidityTier, foldOption_none laws]
    exact if_pos (.inl rfl)
  refine ⟨_, execution, verifyAgentReceiptV1_eq_ok.mpr
    ⟨normalizeReceipt_eq_ok.mpr hsigned, .operational, htier, ?_⟩, rfl, ?_, hexecution, ?_, ?_⟩
  · refine checkReceipt_signed laws pair hdigest ?_ hreads.signingAlgorithm rfl rfl
      hreads.operatorAttestation
    exact hdigest ▸ hhex _
  · rw [hreads.receiptId, hcomposed.receiptId]
    exact hlower _
  · rw [hcall, hcomposed.toolCallId, htrimmed]
  · rw [harguments, hcomposed.arguments]
    exact hlower _

end Compose

/-! ## A hotel booking -/

def contextDrafted : PaybondRunAgentContext where
  modelFamily := "gpt"
  configHashHex := some "44136fa355b3678a1146ad16f7e8649e94fb4fc21fe77e8310c060f61caaff8a"
  promptHashHex := some "e3b0c44298fc1c149afbf4c8996fb92427ae41e4649b934ca495991b7852b855"
  principalDid := some "did:web:principal.example"
  operatorDid := some "did:web:operator.example"
  policyTemplateId := some "travel"

def bindingDrafted : PaybondRunBinding where
  runId := "7b5e2c1a-9d3f-4c8b-a6e1-2f4d6c8b0a13"
  tenantId := "tenant"
  intentId := "550e8400-e29b-41d4-a716-446655440000"
  allowedTools := ["travel.book_hotel"]
  productionEvidence := some
    { payeeDid := "did:web:hotel.example", agentRecognitionKeyId := "key" }
  agentContext := some contextDrafted

def inputDrafted : ReceiptInput where
  toolName := "travel.book_hotel"
  toolCallId := "call-1"
  operation := "travel.book_hotel"
  arguments := .dict []
  agentSubject := none
  requestedSpendCents := some 15000
  currency := none
  vendorId := some "hotel-1"
  entry :=
    { toolName := "travel.book_hotel", operation := "travel.book_hotel"
      evidencePreset := "cost_and_completion" }
  auth :=
    { allow := true, auditId := "3f2504e0-4f89-41d3-9a0c-0305e82c3301"
      decisionId := some "6ba7b810-9dad-11d1-80b4-00c04fd430c8" }
  authorizedAtMs := 0
  policyDigest := some "sha256:44136fa355b3678a1146ad16f7e8649e94fb4fc21fe77e8310c060f61caaff8a"
  executeStartedAtMs := 0
  toolResult := .dict []
  evidence :=
    { intentId := "550e8400-e29b-41d4-a716-446655440000", predicatePassed := some true
      intentState := some "evidence_submitted"
      payloadDigestSha256Hex :=
        some "e3b0c44298fc1c149afbf4c8996fb92427ae41e4649b934ca495991b7852b855" }
  externalAttestations := []

/-- The digests of an empty object, of the tool call and of the receipt. -/
def platformDrafted : Platform :=
  terminalPlatform fun bytes =>
    if bytes = "{}".toUTF8 then "44136fa355b3678a1146ad16f7e8649e94fb4fc21fe77e8310c060f61caaff8a"
    else if bytes = "550e8400-e29b-41d4-a716-446655440000\x00call-1".toUTF8 then
      "abf543e7879e4b19b133a67c595a2dc0782442a59731e6e37e7243a585655461"
    else "3db6a953d1e17ad2f994ab07950e95db22b31cf08273f05f1c92288a96d6a6dc"

theorem hexDigests_drafted : platformDrafted.HexDigests := by
  intro bytes
  have hempty : hex64Re "44136fa355b3678a1146ad16f7e8649e94fb4fc21fe77e8310c060f61caaff8a" = true :=
    hex64Re_ofList (by decide) rfl
  have hcall : hex64Re "abf543e7879e4b19b133a67c595a2dc0782442a59731e6e37e7243a585655461" = true :=
    hex64Re_ofList (by decide) rfl
  have hreceipt :
      hex64Re "3db6a953d1e17ad2f994ab07950e95db22b31cf08273f05f1c92288a96d6a6dc" = true :=
    hex64Re_ofList (by decide) rfl
  rw [platformDrafted, terminalPlatform]
  dsimp only
  split
  · exact hempty
  · split
    · exact hcall
    · exact hreceipt

def surroundingsDrafted : Agent.Platform :=
  { platformTravel with epochMsToRfc3339 _ := "2026-01-01T00:00:00Z" }

def pairDrafted : KeyPair platformDrafted where
  publicKey := bytesOfHex signedFirst.publicKey.val
  sign _ := bytesOfHex <|
    "184b71cc49d5f07c52d27a489a263caa266df4f01d62886c2c0675243a1cfe3f" ++
      "ed586810799b5a0b1f13877506ce3d2253d3ec8e1f4ab3e65c53f8027f1a4d04"
  publicKey_size := size_hex64 signedFirst.publicKey
  sign_size _ := size_bytesOfHex (by decide) rfl
  correct _ := rfl

end PaybondKit.Receipt
