import PaybondKit.Receipt.Verify

/-!
# Normalized receipts, normalized again

Every section is read back from the mapping that the normalizer returns, except that a
blank text in an optional field is dropped and that times are formatted anew.
-/

namespace PaybondKit.Receipt

open Agent (PyExc)

/-! ## Optional values -/

theorem asMapping_items (errorName : String) (fields : PyFields) :
    asMapping errorName (.dict fields.items) = .ok fields.mapping := rfl

section Optional

variable {platform : Platform}

theorem mapM_int (value : Option Int) :
    ((value.map PyValue.int).getD .none).some?.mapM platform.int = .ok value := by
  cases value <;> rfl

theorem map_strip (text : Option Stripped) :
    ((text.map fun text => PyValue.str text.val).getD .none).truthy?.map
      (strip ∘ platform.str) = dropBlank text := by
  cases text with
  | none => rfl
  | some text =>
      by_cases hblank : text.val = ""
      · simp [PyValue.truthy?, PyValue.truthy, dropBlank, hblank, Option.filter]
      · simp [PyValue.truthy?, PyValue.truthy, dropBlank, hblank, Option.filter]

theorem truthy?_token {re : String → Bool} (hempty : re "" = false) (token : Option (Matching re)) :
    ((token.map fun token => PyValue.str token.val).getD .none).truthy? =
      token.map fun token => .str token.val := by
  refine PyValue.truthy?_getD fun value hvalue => ?_
  obtain ⟨token, -, rfl⟩ := Option.map_eq_some_iff.mp hvalue
  exact decide_eq_true (token.ne_empty hempty)

theorem some?_dict {α : Type} (fields : α → PyFields) (part : Option α) :
    ((part.map fun part => PyValue.dict (fields part).items).getD .none).some? =
      part.map fun part => .dict (fields part).items := by
  cases part <;> rfl

theorem normalizeDuration_duration (duration : Option { ms : Int // 0 ≤ ms }) :
    ((duration.map fun ms => PyValue.int ms.val).getD .none).some?.mapM (fun value => do
      checked (0 ≤ ·) (.valueError "agent receipt: duration_ms must be non-negative")
        (← platform.int value)) = .ok duration := by
  cases duration with
  | none => rfl
  | some ms =>
      have hms : checked (0 ≤ ·)
          (PyExc.valueError "agent receipt: duration_ms must be non-negative") ms.val = .ok ms :=
        checked_eq_ok.mpr rfl
      simp only [Option.map_some, Option.getD_some, PyValue.some?, Option.mapM_some,
        Platform.int_int, except_ok_bind, hms]
      rfl

theorem mapM_map_eq_ok {ε α β : Type} {read : α → Except ε β} {write : β → α} {again : β → β}
    (hread : ∀ part, read (write part) = .ok (again part)) (part : Option β) :
    (part.map write).mapM read = .ok (part.map again) := by
  cases part with
  | none => rfl
  | some part =>
      change some <$> read (write part) = _
      rw [hread]
      rfl

theorem optionalText_text (reference : Option Text) :
    optionalText (platform.strOrBlank
      ((reference.map fun text => PyValue.str text.val).getD .none)) = reference := by
  cases reference with
  | none => rfl
  | some text =>
      have hne : text.val ≠ "" := text.property.2
      have hstrip : pyStrip text.val = text.val := text.property.1
      simp [optionalText, Platform.strOrBlank, PyValue.truthy, hne, hstrip]

end Optional

section ReadBack

variable {platform : Platform} (laws : platform.LowerLaws)
include laws

theorem truthyHex64_hex64 (digest : Option Hex64) (field : String) :
    platform.truthyHex64 ((digest.map fun d => PyValue.str d.val).getD .none) field =
      .ok digest := by
  rw [Platform.truthyHex64, truthy?_token (by decide)]
  have hread := @mapM_map_eq_ok _ _ _
    (fun value => requireHex64 (platform.stripLower (platform.str value)) field)
    (fun d : Hex64 => PyValue.str d.val) id (fun d => Platform.requireHex64_hex64 laws d field)
  simpa using hread digest

theorem truthyToken_scopeToken (token : Option ScopeToken) (field : String) :
    platform.truthyToken ((token.map fun t => PyValue.str t.val).getD .none) field =
      .ok token := by
  rw [Platform.truthyToken, truthy?_token (by decide)]
  have hread := @mapM_map_eq_ok _ _ _
    (fun value => platform.scopeToken (platform.str value) field)
    (fun t : ScopeToken => PyValue.str t.val) id
    (fun t => Platform.scopeToken_scopeToken laws t field)
  simpa using hread token

theorem truthyUuid_uuid (uuid : Option Uuid) (field : String) :
    ((uuid.map fun uuid => PyValue.str uuid.val).getD .none).truthy?.mapM
        (fun value => platform.parseUuid (platform.str value) field) = .ok uuid := by
  rw [truthy?_token (by decide)]
  have hread := @mapM_map_eq_ok _ _ _ (fun value => platform.parseUuid (platform.str value) field)
    (fun u : Uuid => PyValue.str u.val) id (fun u => Platform.parseUuid_uuid laws u field)
  simpa using hread uuid

/-! ## Sections -/

def AgentSection.reread (agent : AgentSection) : AgentSection :=
  { agent with modelInstanceId := dropBlank agent.modelInstanceId }

theorem normalizeAgent_fields (agent : AgentSection) :
    normalizeAgent platform (.dict agent.fields.items) = .ok agent.reread := by
  simp only [normalizeAgent, asMapping_items, except_ok_bind, Platform.strItem, item,
    OrderedDict.getValue, OrderedDict.Fields.get?_mapping, AgentSection.fields,
    OrderedDict.fieldValue_cons_self, OrderedDict.fieldValue_cons_ne, ne_eq, String.reduceEq,
    not_false_eq_true, Functor.map, Except.map, Platform.str_str, requireText_text,
    Platform.requireHex64_hex64 laws, Platform.scopeToken_scopeToken laws, mapM_int, map_strip]
  rfl

theorem normalizePolicy_fields (policy : PolicySection) :
    normalizePolicy platform (.dict policy.fields.items) = .ok policy := by
  simp only [normalizePolicy, asMapping_items, except_ok_bind, Platform.strItem, item,
    OrderedDict.getValue, OrderedDict.Fields.get?_mapping, PolicySection.fields,
    OrderedDict.fieldValue_cons_self, OrderedDict.fieldValue_cons_ne, ne_eq, String.reduceEq,
    not_false_eq_true, Functor.map, Except.map, Platform.str_str, requireText_text,
    Platform.requireHex64_hex64 laws, mapM_int]
  rfl

theorem normalizeMandate_mapping (authorization : AuthorizationSection) :
    normalizeMandate platform authorization.fields.mapping = .ok authorization.mandate := by
  have hdigest : (authorization.mandate.map fun m => PyValue.str m.digestSha256Hex.val) =
      (authorization.mandate.map fun m => m.digestSha256Hex).map fun d => .str d.val := by
    cases authorization.mandate <;> rfl
  simp only [normalizeMandate, OrderedDict.getValue, OrderedDict.Fields.get?_mapping,
    AuthorizationSection.fields, OrderedDict.fieldValue_cons_self, OrderedDict.fieldValue_cons_ne,
    ne_eq, String.reduceEq, not_false_eq_true, hdigest, Platform.optionalHex64_hex64 laws,
    optionalText_text, except_ok_bind]
  cases authorization.mandate with
  | none => rfl
  | some mandate => rfl

theorem normalizeAuthorization_fields (authorization : AuthorizationSection) :
    normalizeAuthorization platform (.dict authorization.fields.items) =
      (fun authorizedAt =>
          { authorization with agent := authorization.agent.reread, authorizedAt }) <$>
        platform.formatRfc3339Seconds authorization.authorizedAt := by
  have hcurrency : checked (fun text => Policy.currencyRe text = true)
      (PyExc.valueError s!"agent receipt: currency {platform.repr
        (.str (platform.stripLower authorization.currency.val))} is not canonical")
      (platform.stripLower authorization.currency.val) = .ok authorization.currency :=
    checked_eq_ok.mpr (Platform.stripLower_currency laws authorization.currency)
  have hcents : ∀ failure : PyExc, checked (0 ≤ ·) failure authorization.requestedSpendCents.val =
      .ok authorization.requestedSpendCents := fun failure => checked_eq_ok.mpr rfl
  have hcodes : platform.normalizeScopeSet (tokensToPy authorization.reasonCodes) "reason_codes" =
      .ok authorization.reasonCodes :=
    Platform.normalizeScopeSet_tokens laws authorization.reasonCodes "reason_codes"
  have haudit := truthyUuid_uuid laws authorization.auditId "audit_id"
  have hmandate := normalizeMandate_mapping laws authorization
  simp only [AuthorizationSection.fields] at hmandate
  simp only [normalizeAuthorization, asMapping_items, except_ok_bind, Platform.strItem, item,
    OrderedDict.getValue, OrderedDict.Fields.get?_mapping, AuthorizationSection.fields,
    OrderedDict.fieldValue_cons_self, OrderedDict.fieldValue_cons_ne, ne_eq, String.reduceEq,
    not_false_eq_true, Functor.map, Except.map, Platform.str_str, requireText_text, hcurrency,
    Platform.int_int, hcents, normalizeAgent_fields laws, Platform.parseUuid_uuid laws,
    normalizePolicy_fields laws, Option.getD_some, hcodes, haudit, hmandate,
    Platform.optionalHex64_hex64 laws]
  cases platform.formatRfc3339Seconds authorization.authorizedAt <;> rfl

theorem normalizeExecution_fields (execution : ExecutionSection) :
    normalizeExecution platform (.dict execution.fields.items) = (do
      let startedAt ← platform.formatRfc3339Seconds execution.startedAt
      let completedAt ← platform.formatRfc3339Seconds execution.completedAt
      return { execution with startedAt, completedAt }) := by
  have hread : ∀ failure : PyExc,
      oneOf ExecutionOutcome.text [.executed, .denied, .skipped, .failed] failure
        execution.outcome.text = .ok execution.outcome := by
    intro failure
    cases execution.outcome <;> rfl
  have houtcome : platform.stripLower execution.outcome.text = execution.outcome.text :=
    Platform.stripLower_eq_self laws (by cases execution.outcome <;> exact forall_mem_of_all (by decide))
  have hduration := @normalizeDuration_duration platform execution.durationMs
  simp only [normalizeExecution, asMapping_items, except_ok_bind, Platform.strItem, item,
    OrderedDict.getValue, OrderedDict.Fields.get?_mapping, ExecutionSection.fields,
    OrderedDict.fieldValue_cons_self, OrderedDict.fieldValue_cons_ne, ne_eq, String.reduceEq,
    not_false_eq_true, Functor.map, Except.map, Platform.str_str, requireText_text,
    Platform.parseUuid_uuid laws, Platform.requireHex64_hex64 laws, Platform.scopeToken_scopeToken laws,
    Platform.optionalHex64_hex64 laws, houtcome, hread, truthyHex64_hex64 laws, hduration]

def MerchantSection.reread (merchant : MerchantSection) : MerchantSection :=
  { merchant with vendorRefId := dropBlank merchant.vendorRefId }

theorem normalizeMerchant_fields (merchant : MerchantSection) :
    normalizeMerchant platform (.dict merchant.fields.items) = .ok merchant.reread := by
  simp only [normalizeMerchant, asMapping_items, except_ok_bind, Platform.strItem, item,
    OrderedDict.getValue, OrderedDict.Fields.get?_mapping, MerchantSection.fields,
    OrderedDict.fieldValue_cons_self, OrderedDict.fieldValue_cons_ne, ne_eq, String.reduceEq,
    not_false_eq_true, Functor.map, Except.map, Platform.str_str, requireText_text,
    truthyToken_scopeToken laws, map_strip]
  rfl

theorem normalizeEvidence_fields (evidence : EvidenceSection) :
    normalizeEvidence platform (.dict evidence.fields.items) = .ok evidence := by
  simp only [normalizeEvidence, asMapping_items, except_ok_bind, Platform.strItem, item,
    OrderedDict.getValue, OrderedDict.Fields.get?_mapping, EvidenceSection.fields,
    OrderedDict.fieldValue_cons_self, OrderedDict.fieldValue_cons_ne, ne_eq, String.reduceEq,
    not_false_eq_true, Functor.map, Except.map, Platform.str_str, requireText_text,
    Platform.requireHex64_hex64 laws, Platform.scopeToken_scopeToken laws, truthyHex64_hex64 laws, PyValue.truthy]
  rfl

def PaymentSection.reread (payment : PaymentSection) : PaymentSection :=
  { payment with fundingReference := dropBlank payment.fundingReference }

theorem normalizePayment_fields (payment : PaymentSection) :
    normalizePayment platform (.dict payment.fields.items) = .ok payment.reread := by
  simp only [normalizePayment, asMapping_items, except_ok_bind, Platform.strItem, item,
    OrderedDict.getValue, OrderedDict.Fields.get?_mapping, PaymentSection.fields,
    OrderedDict.fieldValue_cons_self, OrderedDict.fieldValue_cons_ne, ne_eq, String.reduceEq,
    not_false_eq_true, Functor.map, Except.map, Platform.str_str, Platform.parseUuid_uuid laws,
    Platform.scopeToken_scopeToken laws, truthyToken_scopeToken laws, truthyHex64_hex64 laws,
    map_strip]
  rfl

theorem spendReservationOutcome_again (outcome : Option SpendReservationOutcome)
    (failure : PyExc) :
    ((outcome.map fun outcome => PyValue.str outcome.text).getD .none).truthy?.mapM
        (fun value => oneOf SpendReservationOutcome.text [.consumed, .released, .pending, .none]
          failure (platform.stripLower (platform.str value))) = .ok outcome := by
  cases outcome with
  | none => rfl
  | some outcome =>
      have hlower : platform.stripLower outcome.text = outcome.text :=
        Platform.stripLower_eq_self laws (by cases outcome <;> exact forall_mem_of_all (by decide))
      have htruthy : (PyValue.str outcome.text).truthy? = some (.str outcome.text) := by
        cases outcome <;> rfl
      simp only [Option.map_some, Option.getD_some, htruthy, Option.mapM_some, Platform.str_str,
        hlower]
      cases outcome <;> rfl

omit laws in
theorem settlementOutcome_again (outcome : SettlementOutcome) :
    pyStrip (platform.strOrBlank (.str outcome.text)) = outcome.text := by
  have hstrip : pyStrip outcome.text = outcome.text :=
    pyStrip_eq_self (by cases outcome <;> exact forall_mem_of_all (by decide))
  have hblank : platform.strOrBlank (.str outcome.text) = outcome.text := by
    cases outcome <;> rfl
  rw [hblank, hstrip]

theorem normalizeOutcome_fields (outcome : OutcomeSection) (scope : ReceiptScope)
    (hscope : outcome.settlementOutcome ≠ none → scope = .intentTerminal) :
    normalizeOutcome platform (.dict outcome.fields.items) scope = .ok outcome := by
  obtain ⟨harbor, spend, predicate, settlement⟩ := outcome
  have hpredicate : ((predicate.map PyValue.bool).getD .none).some?.map PyValue.truthy =
      predicate := by
    cases predicate <;> rfl
  simp only [normalizeOutcome, asMapping_items, except_ok_bind, Platform.strItem, item,
    OrderedDict.getValue, OrderedDict.Fields.get?_mapping, OutcomeSection.fields,
    OrderedDict.fieldValue_cons_self, OrderedDict.fieldValue_cons_ne, ne_eq, String.reduceEq,
    not_false_eq_true, Functor.map, Except.map, Platform.str_str,
    Platform.scopeToken_scopeToken laws, spendReservationOutcome_again laws, hpredicate]
  cases settlement with
  | none => exact if_pos rfl
  | some settlement =>
      have hterminal : scope = .intentTerminal := hscope (by simp)
      have hne : settlement.text ≠ "" := by cases settlement <;> decide
      simp only [Option.map_some, Option.getD_some, settlementOutcome_again, if_neg hne, hterminal,
        not_true_eq_false]
      cases settlement <;> rfl

theorem normalizeSettlementReceiptId_toPy (id : SettlementReceiptId) :
    normalizeSettlementReceiptId platform id.toPy = .ok id := by
  cases id with
  | falsy value hfalsy => exact dif_pos hfalsy
  | reference text =>
      have hne : text.val ≠ "" := text.ne_empty (by decide)
      have htruthy : ¬(PyValue.str text.val).truthy = false := by simp [PyValue.truthy, hne]
      have hlower : platform.stripLower text.val = text.val := by
        rcases Bool.or_eq_true_iff.mp text.property with huuid | hhex
        · exact Platform.stripLower_uuid laws ⟨text.val, huuid⟩
        · exact Platform.stripLower_hex64 laws ⟨text.val, hhex⟩
      rw [normalizeSettlementReceiptId, SettlementReceiptId.toPy, dif_neg htruthy]
      simp only [Platform.str_str, hlower, if_neg hne]
      rw [checked_eq_ok.mpr rfl]
      rfl

theorem normalizeReferences_fields (references : ReferencesSection) :
    normalizeReferences platform (.dict references.fields.items) = .ok references := by
  obtain ⟨intent, settlement, ledger⟩ := references
  have hledger : ((ledger.map fun seq => PyValue.int seq.val).getD .none).truthy?.mapM
      platform.int = .ok (ledger.map (·.val)) := by
    cases ledger with
    | none => rfl
    | some seq =>
        have hne : seq.val ≠ 0 := seq.property.ne'
        simp [PyValue.truthy?, PyValue.truthy, hne, Functor.map, Except.map]
  have hpositive : ∀ failure : PyExc, raiseIf ((ledger.map (·.val)).getD 0 < 0) failure =
      .ok () := by
    intro failure
    refine raiseIf_eq_ok.mpr ?_
    cases ledger with
    | none => exact lt_irrefl _
    | some seq => exact not_lt.mpr seq.property.le
  have hseq : (if hseq : 0 < (ledger.map (·.val)).getD 0 then
      some (⟨(ledger.map (·.val)).getD 0, hseq⟩ : { seq : Int // 0 < seq }) else none) =
        ledger := by
    cases ledger with
    | none => rfl
    | some seq => exact dif_pos seq.property
  simp only [normalizeReferences, asMapping_items, except_ok_bind, Platform.strItem, item,
    OrderedDict.getValue, OrderedDict.Fields.get?_mapping, ReferencesSection.fields,
    OrderedDict.fieldValue_cons_self, OrderedDict.fieldValue_cons_ne, ne_eq, String.reduceEq,
    not_false_eq_true, Functor.map, Except.map, Platform.str_str, hledger,
    hpositive, Platform.parseUuid_uuid laws, Option.getD_some,
    normalizeSettlementReceiptId_toPy laws, hseq]
  rfl

def ExternalAttestation.reread (attestation : ExternalAttestation) : ExternalAttestation :=
  { attestation with referenceId := dropBlank attestation.referenceId }

theorem normalizeExternalAttestation_fields (attestation : ExternalAttestation) :
    normalizeExternalAttestation platform (.dict attestation.fields.items) =
      .ok attestation.reread := by
  simp only [normalizeExternalAttestation, asMapping_items, except_ok_bind, Platform.strItem, item,
    OrderedDict.getValue, OrderedDict.Fields.get?_mapping, ExternalAttestation.fields,
    OrderedDict.fieldValue_cons_self, OrderedDict.fieldValue_cons_ne, ne_eq, String.reduceEq,
    not_false_eq_true, Functor.map, Except.map, Platform.str_str, requireText_text,
    Platform.requireHex64_hex64 laws, Platform.scopeToken_scopeToken laws, map_strip]
  rfl

theorem normalizeExternalAttestations_toPy (attestations : List ExternalAttestation) :
    normalizeExternalAttestations platform (externalAttestationsToPy attestations) =
      .ok (attestations.map ExternalAttestation.reread) := by
  have hread : (attestations.map fun attestation => PyValue.dict attestation.fields.items).mapM
      (normalizeExternalAttestation platform) =
        .ok (attestations.map ExternalAttestation.reread) := by
    induction attestations with
    | nil => rfl
    | cons attestation attestations ih =>
        rw [List.map_cons, List.mapM_cons, normalizeExternalAttestation_fields laws, ih]
        rfl
  unfold normalizeExternalAttestations
  split
  next htruthy => exact hread
  next hempty =>
    cases attestations with
    | nil => rfl
    | cons attestation attestations => exact absurd rfl hempty

theorem normalizeContinuity_fields (continuity : ContinuitySection)
    (execution : Option ExecutionSection)
    (hrun : ∀ executed ∈ execution, platform.stripLower executed.runId.val =
      continuity.runId.val) :
    normalizeContinuity platform (.dict continuity.fields.items) execution = .ok continuity := by
  obtain ⟨link, run⟩ := continuity
  have hagree : ∀ failure : PyExc, raiseIf (∃ executed ∈ execution,
      ¬platform.stripLower executed.runId.val = run.val) failure = .ok () := by
    intro failure
    refine raiseIf_eq_ok.mpr ?_
    rintro ⟨executed, hexecuted, hne⟩
    exact hne (hrun executed hexecuted)
  have hlink : ChainLink.parse link.sequenceNumber (platform.stripLower (platform.strOrBlank
      ((link.prevMessageDigestSha256Hex.map fun d => PyValue.str d.val).getD .none))) =
        .ok link := by
    cases link with
    | first =>
        have hblank : platform.stripLower "" = "" := Platform.stripLower_eq_self laws (by simp)
        change ChainLink.parse 1 (platform.stripLower "") = _
        rw [hblank]
        rfl
    | after seq prev =>
        have hne : prev.val ≠ "" := prev.ne_empty (by decide)
        have htruthy : platform.strOrBlank (.str prev.val) = prev.val := by
          simp [Platform.strOrBlank, PyValue.truthy, hne]
        have hpositive : ¬seq.val < 1 := not_lt.mpr seq.property.le
        have hlater : ¬seq.val = 1 := seq.property.ne'
        change ChainLink.parse seq.val
          (platform.stripLower (platform.strOrBlank (.str prev.val))) = _
        rw [htruthy, ChainLink.parse, dif_neg hpositive, dif_neg hlater,
          Platform.requireHex64_hex64 laws]
        rfl
  simp only [normalizeContinuity, asMapping_items, except_ok_bind, Platform.strItem, item,
    OrderedDict.getValue, OrderedDict.Fields.get?_mapping, ContinuitySection.fields,
    OrderedDict.fieldValue_cons_self, OrderedDict.fieldValue_cons_ne, ne_eq, String.reduceEq,
    not_false_eq_true, Functor.map, Except.map, Platform.str_str, Platform.parseUuid_uuid laws,
    Platform.int_int, hlink, hagree]
  rfl

theorem normalizeOperatorAttestation_fields (attestation : OperatorAttestation)
    (hsignature : platform.stripLower attestation.ed25519SignatureHex.val =
      attestation.ed25519SignatureHex.val) :
    normalizeOperatorAttestation platform (.dict attestation.fields.items) = .ok attestation := by
  have hlength : ∀ failure : PyExc, checked (·.length = 128) failure
      attestation.ed25519SignatureHex.val = .ok attestation.ed25519SignatureHex :=
    fun failure => checked_eq_ok.mpr rfl
  simp only [normalizeOperatorAttestation, asMapping_items, except_ok_bind, Platform.strItem, item,
    OrderedDict.Fields.get?_mapping, OperatorAttestation.fields,
    OrderedDict.fieldValue_cons_self, OrderedDict.fieldValue_cons_ne, ne_eq, String.reduceEq,
    not_false_eq_true, Functor.map, Except.map, Platform.str_str, requireText_text,
    Platform.requireHex64_hex64 laws, hsignature, hlength]
  rfl

/-! ## Receipts -/

/-- What a normalization goes through. -/
structure Normalizes (platform : Platform) (receipt : Mapping) (normalized : AgentReceipt) :
    Prop where
  schemaVersion :
    ((receipt.get? "schema_version").getD (.int agentReceiptSchemaVersion)).eqInt 0 = true ∨
      ((receipt.get? "schema_version").getD (.int agentReceiptSchemaVersion)).eqInt
        agentReceiptSchemaVersion = true
  kind : requireConstant platform receipt "kind" agentReceiptKindV1 = .ok ()
  receiptVersion : requireConstant platform receipt "receipt_version" agentReceiptVersionV1 = .ok ()
  scope : ∃ text, platform.strItem receipt "scope" = .ok text ∧
    ReceiptScope.parse (platform.stripLower text) = .ok normalized.scope
  receiptId : ∃ text, platform.strItem receipt "receipt_id" = .ok text ∧
    platform.stripLower text = normalized.receiptId
  receiptId_ne : normalized.receiptId ≠ ""
  tenantId : ∃ text, platform.strItem receipt "tenant_id" = .ok text ∧
    pyStrip text = normalized.tenantId.val
  authorization : ∃ value, item receipt "authorization" = .ok value ∧
    normalizeAuthorization platform value = .ok normalized.authorization
  references : ∃ value, item receipt "references" = .ok value ∧
    normalizeReferences platform value = .ok normalized.references
  externalAttestations :
    normalizeExternalAttestations platform (receipt.getValue "external_attestations") =
      .ok normalized.externalAttestations
  mandate : verifyMandateAuthorizationConsistency platform normalized.authorization
    normalized.externalAttestations = .ok ()
  outcome : ∃ value, item receipt "outcome" = .ok value ∧
    normalizeOutcome platform value normalized.scope = .ok normalized.outcome
  execution : executionOf platform receipt normalized.scope = .ok normalized.execution
  issuedAt : ∃ text, platform.strItem receipt "issued_at" = .ok text ∧
    platform.formatRfc3339Seconds text = .ok normalized.issuedAt
  signingAlgorithm :
    normalized.signingAlgorithm =
      let algorithm := platform.stripLower <| platform.str <|
        (receipt.get? "signing_algorithm").getD (.str agentReceiptSigningAlgorithmEd25519)
      if algorithm = "" then agentReceiptSigningAlgorithmEd25519 else algorithm
  messageDigest : ∃ text, platform.strItem receipt "message_digest_sha256_hex" = .ok text ∧
    platform.stripLower text = normalized.messageDigestSha256Hex
  publicKey : ∃ text, platform.strItem receipt "signing_public_key_ed25519_hex" = .ok text ∧
    platform.stripLower text = normalized.signingPublicKeyEd25519Hex
  signature : ∃ text, platform.strItem receipt "ed25519_signature_hex" = .ok text ∧
    platform.stripLower text = normalized.ed25519SignatureHex
  merchant : (receipt.getValue "merchant").some?.mapM (normalizeMerchant platform) =
    .ok normalized.merchant
  evidence : (receipt.getValue "evidence").some?.mapM (normalizeEvidence platform) =
    .ok normalized.evidence
  payment : (receipt.getValue "payment").some?.mapM (normalizePayment platform) =
    .ok normalized.payment
  continuity : ((receipt.getValue "continuity").some?.mapM fun value =>
    normalizeContinuity platform value normalized.execution) = .ok normalized.continuity
  operatorAttestation : (receipt.getValue "operator_attestation").some?.mapM
    (normalizeOperatorAttestation platform) = .ok normalized.operatorAttestation
  receiptIdHolds : verifyReceiptId platform normalized = .ok ()

omit laws in
theorem normalizeReceipt_eq_ok {platform : Platform} {receipt : Mapping}
    {normalized : AgentReceipt} :
    normalizeReceipt platform receipt = .ok normalized ↔
      Normalizes platform receipt normalized := by
  simp only [normalizeReceipt, except_bind_eq_ok, raiseIf_eq_ok, exists_const, except_pure_eq_ok,
    not_not, requireText_eq_ok]
  constructor
  · rintro ⟨hversion, uhkind, hkind, uhreceiptVersion, hreceiptVersion, scopeText, hscopeText,
      scope, hscope, idText, hidText, hid, tenantText, htenantText, tenant, htenant, authorizationValue,
      hauthorizationValue, authorization, hauthorization, referencesValue, hreferencesValue,
      references, hreferences, attestations, hattestations, uhmandate, hmandate, outcomeValue,
      houtcomeValue, outcome, houtcome, execution, hexecution, issuedText, hissuedText, issued,
      hissued, digest, hdigest, key, hkey, signature, hsignature, merchant, hmerchant, evidence,
      hevidence, payment, hpayment, continuity, hcontinuity, operator, hoperator, uhholds, hholds,
      hresult⟩
    subst hresult
    exact
      { schemaVersion := hversion
        kind := hkind
        receiptVersion := hreceiptVersion
        scope := ⟨scopeText, hscopeText, hscope⟩
        receiptId := ⟨idText, hidText, rfl⟩
        receiptId_ne := hid
        tenantId := ⟨tenantText, htenantText, htenant⟩
        authorization := ⟨authorizationValue, hauthorizationValue, hauthorization⟩
        references := ⟨referencesValue, hreferencesValue, hreferences⟩
        externalAttestations := hattestations
        mandate := hmandate
        outcome := ⟨outcomeValue, houtcomeValue, houtcome⟩
        execution := hexecution
        issuedAt := ⟨issuedText, hissuedText, hissued⟩
        signingAlgorithm := rfl
        messageDigest := ⟨digest, hdigest, rfl⟩
        publicKey := ⟨key, hkey, rfl⟩
        signature := ⟨signature, hsignature, rfl⟩
        merchant := hmerchant
        evidence := hevidence
        payment := hpayment
        continuity := hcontinuity
        operatorAttestation := hoperator
        receiptIdHolds := hholds }
  · intro h
    obtain ⟨scopeText, hscopeText, hscope⟩ := h.scope
    obtain ⟨idText, hidText, hid⟩ := h.receiptId
    obtain ⟨tenantText, htenantText, htenant⟩ := h.tenantId
    obtain ⟨authorizationValue, hauthorizationValue, hauthorization⟩ := h.authorization
    obtain ⟨referencesValue, hreferencesValue, hreferences⟩ := h.references
    obtain ⟨outcomeValue, houtcomeValue, houtcome⟩ := h.outcome
    obtain ⟨issuedText, hissuedText, hissued⟩ := h.issuedAt
    obtain ⟨digest, hdigestText, hdigest⟩ := h.messageDigest
    obtain ⟨key, hkeyText, hkey⟩ := h.publicKey
    obtain ⟨signature, hsignatureText, hsignature⟩ := h.signature
    have hresult : AgentReceipt.mk normalized.scope (platform.stripLower idText)
        normalized.issuedAt normalized.tenantId normalized.authorization normalized.outcome
        normalized.references normalized.externalAttestations normalized.signingAlgorithm
        (platform.stripLower digest) (platform.stripLower key) (platform.stripLower signature)
        normalized.execution normalized.merchant normalized.evidence normalized.payment
        normalized.continuity normalized.operatorAttestation = normalized := by
      rw [hid, hdigest, hkey, hsignature]
    rw [h.signingAlgorithm] at hresult
    refine ⟨h.schemaVersion, (), h.kind, (), h.receiptVersion, scopeText, hscopeText, _, hscope,
      idText, hidText, hid ▸ h.receiptId_ne, tenantText, htenantText, _, htenant,
      authorizationValue, hauthorizationValue, _, hauthorization, referencesValue,
      hreferencesValue, _, hreferences, _, h.externalAttestations, (), h.mandate, outcomeValue,
      houtcomeValue, _, houtcome, _, h.execution, issuedText, hissuedText, _, hissued, digest,
      hdigestText, key, hkeyText, signature, hsignatureText, _, h.merchant, _, h.evidence, _,
      h.payment, _, h.continuity, _, h.operatorAttestation, (), ?_, hresult⟩
    rw [hresult]
    exact h.receiptIdHolds

omit laws in
theorem item_toMapping {normalized : AgentReceipt} {key : String} {value : PyValue}
    (hvalue : OrderedDict.fieldValue key normalized.fields.entries = some value) :
    item normalized.toMapping key = .ok value := by
  rw [item, AgentReceipt.toMapping, OrderedDict.Fields.get?_mapping, hvalue]

omit laws in
theorem strItem_toMapping {normalized : AgentReceipt} {key text : String}
    (htext : OrderedDict.fieldValue key normalized.fields.entries = some (.str text)) :
    platform.strItem normalized.toMapping key = .ok text := by
  rw [Platform.strItem, item_toMapping htext]
  rfl

omit laws in
theorem getValue_toMapping (normalized : AgentReceipt) (key : String) :
    normalized.toMapping.getValue key =
      (OrderedDict.fieldValue key normalized.fields.entries).getD .none := by
  rw [OrderedDict.getValue, AgentReceipt.toMapping, OrderedDict.Fields.get?_mapping]

omit laws in
/-- A section that may be missing, read back. -/
theorem optional_again {α : Type} {fields : α → PyFields} {normalize : PyValue → Except PyExc α}
    {again : α → α} {part : Option α}
    (hread : ∀ p ∈ part, normalize (.dict (fields p).items) = .ok (again p)) :
    ((part.map fun p => PyValue.dict (fields p).items).getD .none).some?.mapM normalize =
        .ok part ↔ ∀ p ∈ part, again p = p := by
  rw [some?_dict]
  cases part with
  | none => simp
  | some p => simp [hread p rfl, Functor.map, Except.map]

omit laws in
theorem requireConstant_toMapping {normalized : AgentReceipt} {key constant : String}
    (hvalue : OrderedDict.fieldValue key normalized.fields.entries = some (.str constant))
    (hstrip : pyStrip constant = constant) :
    requireConstant platform normalized.toMapping key constant = .ok () := by
  rw [requireConstant, AgentReceipt.toMapping, OrderedDict.Fields.get?_mapping, hvalue]
  simp [hstrip]

theorem scope_again (scope : ReceiptScope) :
    ReceiptScope.parse (platform.stripLower scope.text) = .ok scope := by
  have hlower : platform.stripLower scope.text = scope.text :=
    Platform.stripLower_eq_self laws (by cases scope <;> exact forall_mem_of_all (by decide))
  rw [hlower]
  cases scope <;> rfl

/-- What is left to know of a normalized receipt that is normalized again. -/
structure Rereads (platform : Platform) (normalized : AgentReceipt) : Prop where
  receiptId : platform.stripLower normalized.receiptId = normalized.receiptId
  receiptId_ne : normalized.receiptId ≠ ""
  authorization :
    normalizeAuthorization platform (.dict normalized.authorization.fields.items) =
      .ok normalized.authorization
  externalAttestations :
    normalizeExternalAttestations platform
        (externalAttestationsToPy normalized.externalAttestations) =
      .ok normalized.externalAttestations
  mandate : verifyMandateAuthorizationConsistency platform normalized.authorization
    normalized.externalAttestations = .ok ()
  outcome : normalized.outcome.settlementOutcome ≠ none → normalized.scope = .intentTerminal
  execution :
    executionOf platform normalized.toMapping normalized.scope = .ok normalized.execution
  issuedAt : platform.formatRfc3339Seconds normalized.issuedAt = .ok normalized.issuedAt
  signingAlgorithm : normalized.signingAlgorithm =
    if platform.stripLower normalized.signingAlgorithm = "" then agentReceiptSigningAlgorithmEd25519
    else platform.stripLower normalized.signingAlgorithm
  messageDigest :
    platform.stripLower normalized.messageDigestSha256Hex = normalized.messageDigestSha256Hex
  publicKey : platform.stripLower normalized.signingPublicKeyEd25519Hex =
    normalized.signingPublicKeyEd25519Hex
  signature : platform.stripLower normalized.ed25519SignatureHex = normalized.ed25519SignatureHex
  merchant : ∀ part ∈ normalized.merchant, part.reread = part
  payment : ∀ part ∈ normalized.payment, part.reread = part
  continuity : ∀ part ∈ normalized.continuity, ∀ executed ∈ normalized.execution,
    platform.stripLower executed.runId.val = part.runId.val
  operatorAttestation : ∀ part ∈ normalized.operatorAttestation,
    platform.stripLower part.ed25519SignatureHex.val = part.ed25519SignatureHex.val
  receiptIdHolds : verifyReceiptId platform normalized = .ok ()

omit laws in
theorem mapM_eq_ok {α ε β : Type} {f : α → Except ε β} {value : Option α} {result : Option β}
    (hresult : value.mapM f = .ok result) :
    (value = none ∧ result = none) ∨ ∃ v r, value = some v ∧ result = some r ∧ f v = .ok r := by
  cases value with
  | none =>
      cases hresult
      exact .inl ⟨rfl, rfl⟩
  | some v =>
      obtain ⟨r, hr, rfl⟩ := except_map_eq_ok.mp hresult
      exact .inr ⟨v, r, rfl, rfl, hr⟩

omit laws in
theorem normalizeOutcome_scope {value : PyValue} {scope : ReceiptScope} {outcome : OutcomeSection}
    (houtcome : normalizeOutcome platform value scope = .ok outcome) :
    outcome.settlementOutcome ≠ none → scope = .intentTerminal := by
  intro hsettled
  simp only [normalizeOutcome, except_bind_eq_ok] at houtcome
  obtain ⟨_, _, _, _, _, _, _, _, houtcome⟩ := houtcome
  split at houtcome
  next =>
    cases houtcome
    exact absurd rfl hsettled
  next =>
    simp only [except_bind_eq_ok, raiseIf_eq_ok, exists_const, not_not] at houtcome
    obtain ⟨_, _, hscope, -⟩ := houtcome
    exact hscope

omit laws in
theorem normalizeContinuity_run {value : PyValue} {execution : Option ExecutionSection}
    {continuity : ContinuitySection}
    (hcontinuity : normalizeContinuity platform value execution = .ok continuity) :
    ∀ executed ∈ execution, platform.stripLower executed.runId.val = continuity.runId.val := by
  simp only [normalizeContinuity, except_bind_eq_ok, raiseIf_eq_ok, exists_const,
    except_pure_eq_ok] at hcontinuity
  obtain ⟨_, _, _, _, _, _, _, _, _, _, _, _, hrun, rfl⟩ := hcontinuity
  intro executed hexecuted
  by_contra hne
  exact hrun ⟨executed, hexecuted, hne⟩

theorem normalizeOperatorAttestation_signature {value : PyValue}
    {attestation : OperatorAttestation}
    (hattestation : normalizeOperatorAttestation platform value = .ok attestation) :
    platform.stripLower attestation.ed25519SignatureHex.val =
      attestation.ed25519SignatureHex.val := by
  simp only [normalizeOperatorAttestation, except_bind_eq_ok, except_pure_eq_ok,
    checked_eq_ok] at hattestation
  obtain ⟨-, -, -, -, -, -, -, -, -, -, text, -, -, -, -, -, signature, hsignature, rfl⟩ :=
    hattestation
  rw [← hsignature, Platform.stripLower_stripLower laws]

/-- Reading a normalized receipt again. -/
theorem normalizes_toMapping {normalized : AgentReceipt} (h : Rereads platform normalized) :
    Normalizes platform normalized.toMapping normalized := by
  have hreferences := normalizeReferences_fields laws normalized.references
  have houtcome := normalizeOutcome_fields laws normalized.outcome normalized.scope h.outcome
  have hmerchant := (optional_again fun part _ => normalizeMerchant_fields laws part).mpr h.merchant
  have hpayment := (optional_again fun part _ => normalizePayment_fields laws part).mpr h.payment
  have hevidence := (@optional_again _ _ (normalizeEvidence platform) id normalized.evidence
    fun part _ => normalizeEvidence_fields laws part).mpr fun _ _ => rfl
  have hcontinuity := (@optional_again _ _
    (fun value => normalizeContinuity platform value normalized.execution) id normalized.continuity
    fun part hpart => normalizeContinuity_fields laws part normalized.execution
      (h.continuity part hpart)).mpr fun _ _ => rfl
  have hoperator := (@optional_again _ _ (normalizeOperatorAttestation platform) id
    normalized.operatorAttestation fun part hpart =>
      normalizeOperatorAttestation_fields laws part (h.operatorAttestation part hpart)).mpr
    fun _ _ => rfl
  exact
    { schemaVersion := by
        rw [AgentReceipt.toMapping, OrderedDict.Fields.get?_mapping]
        simp [AgentReceipt.fields, PyValue.eqInt, PyValue.number?]
      kind := requireConstant_toMapping (by simp [AgentReceipt.fields]) (by decide)
      receiptVersion := requireConstant_toMapping (by simp [AgentReceipt.fields]) (by decide)
      scope := ⟨normalized.scope.text, strItem_toMapping (by simp [AgentReceipt.fields]),
        scope_again laws normalized.scope⟩
      receiptId := ⟨normalized.receiptId, strItem_toMapping (by simp [AgentReceipt.fields]),
        h.receiptId⟩
      receiptId_ne := h.receiptId_ne
      tenantId := ⟨normalized.tenantId.val, strItem_toMapping (by simp [AgentReceipt.fields]),
        normalized.tenantId.property.1⟩
      authorization := ⟨.dict normalized.authorization.fields.items,
        item_toMapping (by simp [AgentReceipt.fields]), h.authorization⟩
      references := ⟨.dict normalized.references.fields.items,
        item_toMapping (by simp [AgentReceipt.fields]), hreferences⟩
      externalAttestations := by
        simpa only [getValue_toMapping, AgentReceipt.fields, OrderedDict.fieldValue_cons_self,
          OrderedDict.fieldValue_cons_ne, ne_eq, String.reduceEq, not_false_eq_true,
          Option.getD_some] using h.externalAttestations
      mandate := h.mandate
      outcome := ⟨.dict normalized.outcome.fields.items,
        item_toMapping (by simp [AgentReceipt.fields]), houtcome⟩
      execution := h.execution
      issuedAt := ⟨normalized.issuedAt, strItem_toMapping (by simp [AgentReceipt.fields]),
        h.issuedAt⟩
      signingAlgorithm := by
        rw [AgentReceipt.toMapping, OrderedDict.Fields.get?_mapping]
        simpa [AgentReceipt.fields] using h.signingAlgorithm
      messageDigest := ⟨normalized.messageDigestSha256Hex,
        strItem_toMapping (by simp [AgentReceipt.fields]), h.messageDigest⟩
      publicKey := ⟨normalized.signingPublicKeyEd25519Hex,
        strItem_toMapping (by simp [AgentReceipt.fields]), h.publicKey⟩
      signature := ⟨normalized.ed25519SignatureHex,
        strItem_toMapping (by simp [AgentReceipt.fields]), h.signature⟩
      merchant := by
        simpa only [getValue_toMapping, AgentReceipt.fields, OrderedDict.fieldValue_cons_self,
          OrderedDict.fieldValue_cons_ne, ne_eq, String.reduceEq, not_false_eq_true] using hmerchant
      evidence := by
        simpa only [getValue_toMapping, AgentReceipt.fields, OrderedDict.fieldValue_cons_self,
          OrderedDict.fieldValue_cons_ne, ne_eq, String.reduceEq, not_false_eq_true] using hevidence
      payment := by
        simpa only [getValue_toMapping, AgentReceipt.fields, OrderedDict.fieldValue_cons_self,
          OrderedDict.fieldValue_cons_ne, ne_eq, String.reduceEq, not_false_eq_true] using hpayment
      continuity := by
        simpa only [getValue_toMapping, AgentReceipt.fields, OrderedDict.fieldValue_cons_self,
          OrderedDict.fieldValue_cons_ne, ne_eq, String.reduceEq,
          not_false_eq_true] using hcontinuity
      operatorAttestation := by
        simpa only [getValue_toMapping, AgentReceipt.fields, OrderedDict.fieldValue_cons_self,
          OrderedDict.fieldValue_cons_ne, ne_eq, String.reduceEq, not_false_eq_true] using hoperator
      receiptIdHolds := h.receiptIdHolds }

end ReadBack

end PaybondKit.Receipt
