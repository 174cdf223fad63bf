import PaybondKit.Receipt.SignedPart

/-!
# Verifying an accepted receipt again

The normalized receipt normalizes to itself, unless an optional text is blank or a time is
not written as it is read. Nothing else about a receipt is lost at the second pass.
-/

namespace PaybondKit.Receipt

open Agent (PyExc)

/-! ## Blank texts and times -/

section Kept

variable (platform : Platform)

/-- It counts as true, and nothing is left of it when it is stripped. -/
def BlankText (value : PyValue) : Prop :=
  value.truthy = true ∧ pyStrip (platform.str value) = ""

/-- The time's text is read as the time it was written for. -/
def TimeKept (value : PyValue) : Prop :=
  ∀ text, platform.formatRfc3339Seconds (platform.str value) = .ok text →
    platform.formatRfc3339Seconds text = .ok text

def attestationsOf (receipt : Mapping) : List PyValue :=
  (pyIter (receipt.getValue "external_attestations")).toOption.getD []

/-- No optional text is blank where the normalizers keep it, and every time is kept. -/
structure Kept (receipt : Mapping) : Prop where
  modelInstanceId : ¬BlankText platform
    (((receipt.getValue "authorization").getItem "agent").getItem "model_instance_id")
  vendorRefId : ¬BlankText platform ((receipt.getValue "merchant").getItem "vendor_ref_id")
  fundingReference :
    ¬BlankText platform ((receipt.getValue "payment").getItem "funding_reference")
  referenceId : ∀ attestation ∈ attestationsOf receipt,
    ¬BlankText platform (attestation.getItem "reference_id")
  authorizedAt : TimeKept platform ((receipt.getValue "authorization").getItem "authorized_at")
  issuedAt : TimeKept platform (receipt.getValue "issued_at")
  executed : platform.stripLower (platform.str (receipt.getValue "scope")) = "action" →
    TimeKept platform ((receipt.getValue "execution").getItem "started_at") ∧
      TimeKept platform ((receipt.getValue "execution").getItem "completed_at")

end Kept

section Facts

variable {platform : Platform}

theorem asMapping_eq_ok {errorName : String} {value : PyValue} {mapping : Mapping}
    (hvalue : asMapping errorName value = .ok mapping) (key : String) :
    value.getItem key = mapping.getValue key := by
  cases value with
  | dict items =>
      cases hvalue
      rfl
  | _ => cases hvalue

theorem item_eq_ok {mapping : Mapping} {key : String} {value : PyValue}
    (hitem : item mapping key = .ok value) : mapping.getValue key = value := by
  unfold item at hitem
  split at hitem
  next stored hstored =>
    cases hitem
    simp [OrderedDict.getValue, hstored]
  next => cases hitem

theorem strItem_eq_ok {mapping : Mapping} {key text : String}
    (hitem : platform.strItem mapping key = .ok text) :
    platform.str (mapping.getValue key) = text := by
  obtain ⟨value, hvalue, rfl⟩ := except_map_eq_ok.mp hitem
  rw [item_eq_ok hvalue]

/-- The text that was kept is dropped the next time when it is blank. -/
theorem dropBlank_iff (value : PyValue) :
    dropBlank (value.truthy?.map (strip ∘ platform.str)) =
        value.truthy?.map (strip ∘ platform.str) ↔ ¬BlankText platform value := by
  unfold PyValue.truthy? BlankText
  by_cases htruthy : value.truthy = true
  · by_cases hblank : pyStrip (platform.str value) = ""
    · simp [htruthy, hblank, dropBlank, strip, Option.filter]
    · simp [htruthy, hblank, dropBlank, strip, Option.filter]
  · simp [htruthy, dropBlank]

theorem timeKept_iff {value : PyValue} {text : String}
    (htext : platform.formatRfc3339Seconds (platform.str value) = .ok text) :
    platform.formatRfc3339Seconds text = .ok text ↔ TimeKept platform value := by
  constructor
  · intro hkept text' htext'
    rw [htext] at htext'
    cases htext'
    exact hkept
  · intro hkept
    exact hkept text htext

theorem AgentSection.reread_eq_iff {value : PyValue} {agent : AgentSection}
    (hagent : normalizeAgent platform value = .ok agent) :
    agent.reread = agent ↔ ¬BlankText platform (value.getItem "model_instance_id") := by
  simp only [normalizeAgent, except_bind_eq_ok, except_pure_eq_ok] at hagent
  obtain ⟨mapping, hmapping, -, -, -, -, -, -, -, -, -, -, -, -, -, -, -, -, -, -, rfl⟩ := hagent
  rw [asMapping_eq_ok hmapping, ← dropBlank_iff]
  simp [AgentSection.reread]

theorem MerchantSection.reread_eq_iff {value : PyValue} {merchant : MerchantSection}
    (hvalue : normalizeMerchant platform value = .ok merchant) :
    merchant.reread = merchant ↔ ¬BlankText platform (value.getItem "vendor_ref_id") := by
  simp only [normalizeMerchant, except_bind_eq_ok, except_pure_eq_ok] at hvalue
  obtain ⟨mapping, hmapping, -, -, -, -, -, -, rfl⟩ := hvalue
  rw [asMapping_eq_ok hmapping, ← dropBlank_iff]
  simp [MerchantSection.reread]

theorem PaymentSection.reread_eq_iff {value : PyValue} {payment : PaymentSection}
    (hvalue : normalizePayment platform value = .ok payment) :
    payment.reread = payment ↔ ¬BlankText platform (value.getItem "funding_reference") := by
  simp only [normalizePayment, except_bind_eq_ok, except_pure_eq_ok] at hvalue
  obtain ⟨mapping, hmapping, -, -, -, -, -, -, -, -, -, -, -, -, rfl⟩ := hvalue
  rw [asMapping_eq_ok hmapping, ← dropBlank_iff]
  simp [PaymentSection.reread]

theorem ExternalAttestation.reread_eq_iff {value : PyValue} {attestation : ExternalAttestation}
    (hvalue : normalizeExternalAttestation platform value = .ok attestation) :
    attestation.reread = attestation ↔ ¬BlankText platform (value.getItem "reference_id") := by
  simp only [normalizeExternalAttestation, except_bind_eq_ok, except_pure_eq_ok] at hvalue
  obtain ⟨mapping, hmapping, -, -, -, -, -, -, -, -, -, -, -, -, rfl⟩ := hvalue
  rw [asMapping_eq_ok hmapping, ← dropBlank_iff]
  simp [ExternalAttestation.reread]

theorem map_reread_eq_iff {values : List PyValue} {attestations : List ExternalAttestation}
    (hvalues : values.mapM (normalizeExternalAttestation platform) = .ok attestations) :
    attestations.map ExternalAttestation.reread = attestations ↔
      ∀ value ∈ values, ¬BlankText platform (value.getItem "reference_id") := by
  induction values generalizing attestations with
  | nil =>
      cases hvalues
      simp
  | cons value values ih =>
      rw [List.mapM_cons] at hvalues
      simp only [except_bind_eq_ok, except_pure_eq_ok] at hvalues
      obtain ⟨attestation, hattestation, rest, hrest, rfl⟩ := hvalues
      rw [List.map_cons, List.cons.injEq, ExternalAttestation.reread_eq_iff hattestation,
        ih hrest, List.forall_mem_cons]

section Again

variable (laws : platform.LowerLaws)
include laws

theorem normalizeAuthorization_again {value : PyValue} {authorization : AuthorizationSection}
    (hvalue : normalizeAuthorization platform value = .ok authorization) :
    normalizeAuthorization platform (.dict authorization.fields.items) = .ok authorization ↔
      ¬BlankText platform ((value.getItem "agent").getItem "model_instance_id") ∧
        TimeKept platform (value.getItem "authorized_at") := by
  simp only [normalizeAuthorization, except_bind_eq_ok, except_pure_eq_ok] at hvalue
  obtain ⟨mapping, hmapping, -, -, -, -, -, -, -, -, -, -, -, -, -, -, -, -, -, -, agentValue,
    hagentValue, agent, hagent, -, -, -, -, -, -, -, -, timeText, htimeText, time, htime, -, -, -,
    -, -, -, -, -, rfl⟩ := hvalue
  have hagentItem : value.getItem "agent" = agentValue := by
    rw [asMapping_eq_ok hmapping, item_eq_ok hagentValue]
  rw [← strItem_eq_ok htimeText] at htime
  rw [hagentItem, asMapping_eq_ok hmapping, ← AgentSection.reread_eq_iff hagent,
    ← timeKept_iff htime, normalizeAuthorization_fields laws, except_map_eq_ok]
  constructor
  · rintro ⟨text, htext, hsame⟩
    rw [AuthorizationSection.mk.injEq] at hsame
    obtain ⟨-, -, hreread, -, -, rfl, -⟩ := hsame
    exact ⟨hreread, htext⟩
  · rintro ⟨hreread, hkept⟩
    refine ⟨time, hkept, ?_⟩
    rw [hreread]

theorem normalizeExecution_again {value : PyValue} {execution : ExecutionSection}
    (hvalue : normalizeExecution platform value = .ok execution) :
    normalizeExecution platform (.dict execution.fields.items) = .ok execution ↔
      TimeKept platform (value.getItem "started_at") ∧
        TimeKept platform (value.getItem "completed_at") := by
  simp only [normalizeExecution, except_bind_eq_ok, except_pure_eq_ok] at hvalue
  obtain ⟨mapping, hmapping, -, -, -, -, -, -, -, -, -, -, -, -, -, -, -, -, -, -, -, -, -, -, -, -,
    startedText, hstartedText, started, hstarted, completedText, hcompletedText, completed,
    hcompleted, -, -, -, -, -, -, rfl⟩ := hvalue
  rw [← strItem_eq_ok hstartedText] at hstarted
  rw [← strItem_eq_ok hcompletedText] at hcompleted
  rw [asMapping_eq_ok hmapping, asMapping_eq_ok hmapping, ← timeKept_iff hstarted,
    ← timeKept_iff hcompleted, normalizeExecution_fields laws]
  simp only [except_bind_eq_ok, except_pure_eq_ok, ExecutionSection.mk.injEq, true_and, and_true]
  constructor
  · rintro ⟨_, hstarted, _, hcompleted, rfl, rfl⟩
    exact ⟨hstarted, hcompleted⟩
  · rintro ⟨hstarted, hcompleted⟩
    exact ⟨_, hstarted, _, hcompleted, rfl, rfl⟩

theorem normalizeExternalAttestations_again {receipt : Mapping}
    {attestations : List ExternalAttestation}
    (hvalues : normalizeExternalAttestations platform
      (receipt.getValue "external_attestations") = .ok attestations) :
    normalizeExternalAttestations platform (externalAttestationsToPy attestations) =
        .ok attestations ↔
      ∀ value ∈ attestationsOf receipt, ¬BlankText platform (value.getItem "reference_id") := by
  rw [normalizeExternalAttestations_toPy laws, Except.ok.injEq, attestationsOf]
  unfold normalizeExternalAttestations at hvalues
  split at hvalues
  next htruthy =>
    obtain ⟨items, hitems, hmap⟩ := except_bind_eq_ok.mp hvalues
    rw [map_reread_eq_iff hmap, hitems]
    rfl
  next hempty =>
    cases hvalues
    refine ⟨fun _ value hvalue => ?_, fun _ => rfl⟩
    cases hstored : receipt.getValue "external_attestations" with
    | list items => 
        cases items with
        | nil => simp [hstored, pyIter, Except.toOption] at hvalue
        | cons item items => simp [hstored, PyValue.truthy] at hempty
    | str text =>
        have htext : text = "" := by simpa [hstored, PyValue.truthy] using hempty
        simp [hstored, htext, pyIter, Except.toOption] at hvalue
    | dict items =>
        cases items with
        | nil => 
          rw [hstored] at hvalue
          cases hvalue
        | cons item items => simp [hstored, PyValue.truthy] at hempty
    | _ => simp [hstored, pyIter, Except.toOption] at hvalue

/-! ## The receipt -/

theorem executionOf_again {receipt : Mapping} {scope : ReceiptScope}
    {execution : Option ExecutionSection} {normalized : AgentReceipt}
    (hexecution : executionOf platform receipt scope = .ok execution)
    (hnormalized : normalized.execution = execution) :
    executionOf platform normalized.toMapping scope = .ok execution ↔
      (scope = .action →
        TimeKept platform ((receipt.getValue "execution").getItem "started_at") ∧
          TimeKept platform ((receipt.getValue "execution").getItem "completed_at")) := by
  cases scope with
  | intentTerminal =>
      cases hexecution
      simp [executionOf]
  | action =>
      simp only [executionOf, except_bind_eq_ok, raiseIf_eq_ok, exists_const,
        except_pure_eq_ok] at hexecution
      obtain ⟨-, executed, hexecuted, rfl⟩ := hexecution
      have hvalue : normalized.toMapping.getValue "execution" =
          .dict executed.fields.items := by
        simp only [AgentReceipt.toMapping, OrderedDict.getValue, OrderedDict.Fields.get?_mapping,
          AgentReceipt.fields, OrderedDict.fieldValue_cons_self, OrderedDict.fieldValue_cons_ne,
          ne_eq, String.reduceEq, not_false_eq_true, hnormalized, Option.map_some, Option.getD_some]
      rw [← normalizeExecution_again laws hexecuted]
      simp only [executionOf, hvalue, except_bind_eq_ok, raiseIf_eq_ok, exists_const,
        except_pure_eq_ok, Option.some.injEq, exists_eq_right, forall_const]
      simp [PyValue.some?]

omit laws in
theorem forall_optional_iff {α : Type} {normalize : PyValue → Except PyExc α} {Q : α → Prop}
    {P : PyValue → Prop} {value : PyValue} {part : Option α}
    (hvalue : value.some?.mapM normalize = .ok part)
    (hpart : ∀ p, normalize value = .ok p → (Q p ↔ P value)) (hnone : P .none) :
    (∀ p ∈ part, Q p) ↔ P value := by
  rcases mapM_eq_ok hvalue with ⟨hmissing, rfl⟩ | ⟨v, p, hv, rfl, hp⟩
  · have hvalue : value = .none := by
      cases value with
      | none => rfl
      | _ => cases hmissing
    simp [hvalue, hnone]
  · have hsame : v = value := by
      cases value with
      | none => cases hv
      | _ => exact (Option.some.inj hv).symm
    rw [hsame] at hp
    simpa using hpart p hp

omit laws in
theorem not_blankText_none : ¬BlankText platform .none := by
  rintro ⟨htruthy, -⟩
  cases htruthy

theorem signingAlgorithm_again {algorithm text : String}
    (halgorithm : algorithm =
      if platform.stripLower text = "" then agentReceiptSigningAlgorithmEd25519
      else platform.stripLower text) :
    algorithm =
      if platform.stripLower algorithm = "" then agentReceiptSigningAlgorithmEd25519
      else platform.stripLower algorithm := by
  have hconstant : platform.stripLower agentReceiptSigningAlgorithmEd25519 =
      agentReceiptSigningAlgorithmEd25519 :=
    Platform.stripLower_eq_self laws (forall_mem_of_all (by decide))
  by_cases hblank : platform.stripLower text = ""
  · rw [if_pos hblank] at halgorithm
    rw [halgorithm, hconstant]
    rfl
  · rw [if_neg hblank] at halgorithm
    rw [halgorithm, Platform.stripLower_stripLower laws, if_neg hblank]

omit laws in
theorem oneOf_eq_ok {α : Type} {text : α → String} {options : List α} {failure : PyExc}
    {value : String} {option : α} (hoption : oneOf text options failure value = .ok option) :
    text option = value := by
  unfold oneOf at hoption
  split at hoption
  next found hfound =>
    cases hoption
    simpa using List.find?_some hfound
  next => cases hoption

omit laws in
theorem scope_eq_action_iff {text : String} {scope : ReceiptScope}
    (hscope : ReceiptScope.parse text = .ok scope) : scope = .action ↔ text = "action" := by
  rw [← oneOf_eq_ok hscope, ← ReceiptScope.text_inj]
  rfl

/-- Once normalized, a receipt is normalized to itself exactly when nothing that was read is
blank and every time is kept. -/
theorem normalizes_again_iff {receipt : Mapping} {normalized : AgentReceipt}
    (h : Normalizes platform receipt normalized) :
    Normalizes platform normalized.toMapping normalized ↔ Kept platform receipt := by
  obtain ⟨scopeText, hscopeText, hscope⟩ := h.scope
  obtain ⟨authorizationValue, hauthorizationValue, hauthorization⟩ := h.authorization
  obtain ⟨outcomeValue, -, houtcome⟩ := h.outcome
  obtain ⟨issuedText, hissuedText, hissued⟩ := h.issuedAt
  rw [← strItem_eq_ok hissuedText] at hissued
  have hauthorizationAgain := normalizeAuthorization_again laws hauthorization
  rw [← item_eq_ok hauthorizationValue] at hauthorizationAgain
  have hattestationsAgain := normalizeExternalAttestations_again laws h.externalAttestations
  have hexecutionAgain := executionOf_again laws h.execution rfl
  have hissuedAgain := timeKept_iff hissued
  have hmerchantAgain := forall_optional_iff h.merchant
    (P := fun value => ¬BlankText platform (value.getItem "vendor_ref_id"))
    (fun _ => MerchantSection.reread_eq_iff) not_blankText_none
  have hpaymentAgain := forall_optional_iff h.payment
    (P := fun value => ¬BlankText platform (value.getItem "funding_reference"))
    (fun _ => PaymentSection.reread_eq_iff) not_blankText_none
  have hscopeAction : normalized.scope = .action ↔
      platform.stripLower (platform.str (receipt.getValue "scope")) = "action" := by
    rw [strItem_eq_ok hscopeText]
    exact scope_eq_action_iff hscope
  constructor
  · intro hagain
    obtain ⟨value, hvalue, hread⟩ := hagain.authorization
    rw [@item_toMapping normalized _ (.dict normalized.authorization.fields.items)
      (by simp [AgentReceipt.fields])] at hvalue
    cases hvalue
    obtain ⟨hmodel, hauthorized⟩ := hauthorizationAgain.mp hread
    obtain ⟨text, htext, hformat⟩ := hagain.issuedAt
    rw [@strItem_toMapping _ normalized _ normalized.issuedAt
      (by simp [AgentReceipt.fields])] at htext
    cases htext
    have hattestations := hagain.externalAttestations
    have hmerchant := hagain.merchant
    have hpayment := hagain.payment
    simp only [getValue_toMapping, AgentReceipt.fields, OrderedDict.fieldValue_cons_self,
      OrderedDict.fieldValue_cons_ne, ne_eq, String.reduceEq,
      not_false_eq_true] at hattestations hmerchant hpayment
    exact
      { modelInstanceId := hmodel
        vendorRefId := hmerchantAgain.mp
          ((optional_again fun part _ => normalizeMerchant_fields laws part).mp hmerchant)
        fundingReference := hpaymentAgain.mp
          ((optional_again fun part _ => normalizePayment_fields laws part).mp hpayment)
        referenceId := hattestationsAgain.mp hattestations
        authorizedAt := hauthorized
        issuedAt := hissuedAgain.mp hformat
        executed := fun haction => hexecutionAgain.mp hagain.execution (hscopeAction.mpr haction) }
  · intro hkept
    obtain ⟨idText, -, hid⟩ := h.receiptId
    obtain ⟨digestText, -, hdigest⟩ := h.messageDigest
    obtain ⟨keyText, -, hkey⟩ := h.publicKey
    obtain ⟨signatureText, -, hsignature⟩ := h.signature
    have hfixed : ∀ {text folded : String}, platform.stripLower text = folded →
        platform.stripLower folded = folded := by
      rintro text _ rfl
      exact Platform.stripLower_stripLower laws text
    refine normalizes_toMapping laws
      { receiptId := hfixed hid
        receiptId_ne := h.receiptId_ne
        authorization :=
          hauthorizationAgain.mpr ⟨hkept.modelInstanceId, hkept.authorizedAt⟩
        externalAttestations := hattestationsAgain.mpr hkept.referenceId
        mandate := h.mandate
        outcome := normalizeOutcome_scope houtcome
        execution := hexecutionAgain.mpr fun haction => hkept.executed (hscopeAction.mp haction)
        issuedAt := hissuedAgain.mpr hkept.issuedAt
        signingAlgorithm := signingAlgorithm_again laws h.signingAlgorithm
        messageDigest := hfixed hdigest
        publicKey := hfixed hkey
        signature := hfixed hsignature
        merchant := hmerchantAgain.mpr hkept.vendorRefId
        payment := hpaymentAgain.mpr hkept.fundingReference
        continuity := ?_
        operatorAttestation := ?_
        receiptIdHolds := h.receiptIdHolds }
    · intro part hpart
      rcases mapM_eq_ok h.continuity with ⟨-, hnone⟩ | ⟨value, r, -, hr, hread⟩
      · rw [hnone] at hpart
        cases hpart
      · rw [hr] at hpart
        cases hpart
        exact normalizeContinuity_run hread
    · intro part hpart
      rcases mapM_eq_ok h.operatorAttestation with ⟨-, hnone⟩ | ⟨value, r, -, hr, hread⟩
      · rw [hnone] at hpart
        cases hpart
      · rw [hr] at hpart
        cases hpart
        exact normalizeOperatorAttestation_signature laws hread

/-- An accepted receipt is accepted again, and comes back as it is, exactly when no optional
text of the receipt is blank and every time is kept. -/
theorem verifyAgentReceiptV1_again_iff {receipt : Mapping} {options : VerifyOptions}
    {normalized : AgentReceipt}
    (haccepted : verifyAgentReceiptV1 platform receipt options = .ok normalized) :
    verifyAgentReceiptV1 platform normalized.toMapping options = .ok normalized ↔
      Kept platform receipt := by
  obtain ⟨hnormalize, hcheck⟩ := verifyAgentReceiptV1_eq_ok.mp haccepted
  rw [verifyAgentReceiptV1_eq_ok, and_iff_left hcheck, normalizeReceipt_eq_ok]
  exact normalizes_again_iff laws (normalizeReceipt_eq_ok.mp hnormalize)

end Again

end Facts

theorem verifyAgentReceiptV1_again_settled :
    verifyAgentReceiptV1 (terminalPlatform fun _ => signedFirst.digest.val)
        (terminalReceipt none [] signedFirst).toMapping {} =
          .ok (terminalReceipt none [] signedFirst) ↔
      Kept (terminalPlatform fun _ => signedFirst.digest.val)
        (terminalReceipt none [] signedFirst).toMapping :=
  verifyAgentReceiptV1_again_iff lowerLaws_terminal (accepted_terminal rfl rfl)

/-! ## A blank reference -/

/-- A receipt whose attestations are given in another way. -/
theorem Normalizes.of_attestations {platform : Platform} {receipt receipt' : Mapping}
    {normalized : AgentReceipt} {attestations : List ExternalAttestation}
    (h : Normalizes platform receipt normalized)
    (hget : ∀ key, key ≠ "external_attestations" → receipt'.get? key = receipt.get? key)
    (hvalue : normalizeExternalAttestations platform
      (receipt'.getValue "external_attestations") = .ok attestations)
    (hmandate : normalized.authorization.mandate = none) :
    Normalizes platform receipt' { normalized with externalAttestations := attestations } where
  schemaVersion := by simpa [hget] using h.schemaVersion
  kind := by simpa [requireConstant, hget] using h.kind
  receiptVersion := by simpa [requireConstant, hget] using h.receiptVersion
  scope := by simpa [Platform.strItem, item, hget] using h.scope
  receiptId := by simpa [Platform.strItem, item, hget] using h.receiptId
  receiptId_ne := h.receiptId_ne
  tenantId := by simpa [Platform.strItem, item, hget] using h.tenantId
  authorization := by simpa [item, hget] using h.authorization
  references := by simpa [item, hget] using h.references
  externalAttestations := hvalue
  mandate := by rw [verifyMandateAuthorizationConsistency, hmandate]
  outcome := by simpa [item, hget] using h.outcome
  execution := by
    have hsame : receipt'.getValue "execution" = receipt.getValue "execution" := by
      rw [OrderedDict.getValue, OrderedDict.getValue, hget "execution" (by decide)]
    have hexecution : ∀ scope, executionOf platform receipt' scope =
        executionOf platform receipt scope := by
      intro scope
      cases scope <;> simp only [executionOf, hsame]
    rw [hexecution]
    exact h.execution
  issuedAt := by simpa [Platform.strItem, item, hget] using h.issuedAt
  signingAlgorithm := by simpa [hget] using h.signingAlgorithm
  messageDigest := by simpa [Platform.strItem, item, hget] using h.messageDigest
  publicKey := by simpa [Platform.strItem, item, hget] using h.publicKey
  signature := by simpa [Platform.strItem, item, hget] using h.signature
  merchant := by simpa [OrderedDict.getValue, hget] using h.merchant
  evidence := by simpa [OrderedDict.getValue, hget] using h.evidence
  payment := by simpa [OrderedDict.getValue, hget] using h.payment
  continuity := by simpa [OrderedDict.getValue, hget] using h.continuity
  operatorAttestation := by simpa [OrderedDict.getValue, hget] using h.operatorAttestation
  receiptIdHolds := h.receiptIdHolds

/-- The attestations are in one field. -/
theorem get?_toMapping_of_ne (normalized : AgentReceipt) (attestations : List ExternalAttestation)
    {key : String} (hkey : "external_attestations" ≠ key) :
    { normalized with externalAttestations := attestations }.toMapping.get? key =
      normalized.toMapping.get? key := by
  have hdrop : ∀ receipt : AgentReceipt, receipt.toMapping.get? key =
      OrderedDict.fieldValue key
        (receipt.fields.entries.take 10 ++ receipt.fields.entries.drop 11) := by
    intro receipt
    rw [AgentReceipt.toMapping, OrderedDict.Fields.get?_mapping]
    exact OrderedDict.fieldValue_append_cons_ne hkey
      (some (externalAttestationsToPy receipt.externalAttestations))
      (receipt.fields.entries.take 10) (receipt.fields.entries.drop 11)
  rw [hdrop, hdrop]
  rfl

def blankAttestation : ExternalAttestation where
  source := ⟨"partner", by decide +kernel⟩
  kind := ⟨"payment", by decide +kernel⟩
  digestSha256Hex := zeroDigest
  referenceId := some ⟨"", rfl⟩

/-- As it is written, with a space for a reference. -/
def spaceAttestation : PyFields where
  entries :=
    [("source", some (.str blankAttestation.source.val)),
      ("kind", some (.str blankAttestation.kind.val)),
      ("digest_sha256_hex", some (.str blankAttestation.digestSha256Hex.val)),
      ("reference_id", some (.str " "))]
  nodup := by simp

def signedBlank : SignedDigest where
  digest :=
    ⟨"dd52b043080ad103e056eff059c6144430ca01d65fad15e9b73e8e9e71128062",
      hex64Re_ofList (by decide) rfl⟩
  publicKey := signedFirst.publicKey
  signatureHigh :=
    ⟨"b94a4c8cda5b6215308baf47f45d21bf31b622adea1aed85ec691ca52374ad6e",
      hex64Re_ofList (by decide) rfl⟩
  signatureLow :=
    ⟨"4171a8669106bd68616a3efc6d1ac395286cee442eac5451a2e21b015d464400",
      hex64Re_ofList (by decide) rfl⟩

def blankBytes : ByteArray :=
  (terminalReceipt none [blankAttestation] signedBlank).canonicalBytes
    (terminalPlatform fun _ => "").floatText

/-- The digest of the bytes with the blank reference, and of those without a reference. -/
def blankPlatform : Platform :=
  terminalPlatform fun bytes =>
    if bytes = blankBytes then signedBlank.digest.val
    else "e53fbcd4a3e3fbcad442345ea1ba0745879ae5c8bec908d0066132eca2ff64eb"

theorem sha256Hex_blankPlatform (bytes : ByteArray) :
    blankPlatform.sha256Hex bytes =
      if bytes = blankBytes then signedBlank.digest.val
      else "e53fbcd4a3e3fbcad442345ea1ba0745879ae5c8bec908d0066132eca2ff64eb" := rfl

def spaceReceipt : Mapping :=
  (terminalReceipt none [] signedBlank).toMapping.set "external_attestations"
    (.list [.dict spaceAttestation.items])

theorem normalizeExternalAttestation_space :
    normalizeExternalAttestation blankPlatform (.dict spaceAttestation.items) =
      .ok blankAttestation := by
  have laws : blankPlatform.LowerLaws := lowerLaws_terminal
  have hstrip : strip " " = ⟨"", rfl⟩ := Subtype.ext (by decide)
  simp only [normalizeExternalAttestation, asMapping_items, except_ok_bind, Platform.strItem, item,
    OrderedDict.getValue, OrderedDict.Fields.get?_mapping, spaceAttestation,
    OrderedDict.fieldValue_cons_self, OrderedDict.fieldValue_cons_ne, ne_eq, String.reduceEq,
    not_false_eq_true, Functor.map, Except.map, Platform.str_str, requireText_text,
    Platform.requireHex64_hex64 laws, Platform.scopeToken_scopeToken laws, Option.getD_some]
  simp [PyValue.truthy?, PyValue.truthy, hstrip, blankAttestation]

theorem normalizes_space :
    Normalizes blankPlatform spaceReceipt
      (terminalReceipt none [blankAttestation] signedBlank) := by
  have hrereads : Rereads blankPlatform (terminalReceipt none [] signedBlank) :=
    rereads_terminal rfl
  have hbase := normalizes_toMapping lowerLaws_terminal hrereads
  have hget : ∀ key, key ≠ "external_attestations" →
      spaceReceipt.get? key = (terminalReceipt none [] signedBlank).toMapping.get? key := by
    intro key hkey
    rw [spaceReceipt, OrderedDict.get?_set, if_neg hkey]
  refine hbase.of_attestations hget ?_ rfl
  have hmap : [PyValue.dict spaceAttestation.items].mapM
      (normalizeExternalAttestation blankPlatform) = .ok [blankAttestation] := by
    rw [List.mapM_cons, normalizeExternalAttestation_space, List.mapM_nil]
    rfl
  rw [spaceReceipt, OrderedDict.getValue, OrderedDict.get?_set_self]
  exact hmap

/-- What is left of the receipt when it is read again. -/
theorem normalizes_blank :
    Normalizes blankPlatform (terminalReceipt none [blankAttestation] signedBlank).toMapping
      (terminalReceipt none [blankAttestation.reread] signedBlank) := by
  have hrereads : Rereads blankPlatform (terminalReceipt none [] signedBlank) :=
    rereads_terminal rfl
  have hbase := normalizes_toMapping lowerLaws_terminal hrereads
  have hget : ∀ key, key ≠ "external_attestations" →
      (terminalReceipt none [blankAttestation] signedBlank).toMapping.get? key =
        (terminalReceipt none [] signedBlank).toMapping.get? key := by
    intro key hkey
    exact get?_toMapping_of_ne (terminalReceipt none [] signedBlank) [blankAttestation] hkey.symm
  refine hbase.of_attestations hget ?_ rfl
  have hread := normalizeExternalAttestations_toPy (@lowerLaws_terminal blankPlatform.sha256Hex)
    [blankAttestation]
  rw [getValue_toMapping]
  exact hread

/-- The reference is kept as an empty text, over which the digest was taken, and dropped when
the receipt is read again. -/
theorem verifyAgentReceiptV1_again_space :
    verifyAgentReceiptV1 blankPlatform spaceReceipt {} =
        .ok (terminalReceipt none [blankAttestation] signedBlank) ∧
      verifyAgentReceiptV1 blankPlatform
          (terminalReceipt none [blankAttestation] signedBlank).toMapping {} =
        .error (.valueError "agent receipt: message digest mismatch") := by
  constructor
  · exact verifyAgentReceiptV1_eq_ok.mpr ⟨normalizeReceipt_eq_ok.mpr normalizes_space,
      .operational, rfl, checkReceipt_terminal (if_pos rfl)⟩
  · have hdigest : blankPlatform.sha256Hex
        ((terminalReceipt none [blankAttestation.reread] signedBlank).canonicalBytes
          blankPlatform.floatText) =
        "e53fbcd4a3e3fbcad442345ea1ba0745879ae5c8bec908d0066132eca2ff64eb" := by
      rw [sha256Hex_blankPlatform, if_neg]
      intro hbytes
      have hfloat : blankPlatform.floatText (.finite 0) ≠ .ofInt 0 := by
        intro hzero
        exact absurd (congrArg JsonNumber.text hzero) (by decide)
      have hpart := AgentReceipt.signedPart_eq hfloat hbytes rfl rfl
      have hattestations : [blankAttestation.reread] = [blankAttestation] :=
        congrArg AgentReceipt.externalAttestations hpart
      have hreference : dropBlank blankAttestation.referenceId = blankAttestation.referenceId :=
        congrArg ExternalAttestation.referenceId (List.cons.inj hattestations).1
      cases hreference
    have hdiffer : signedBlank.digest.val ≠ blankPlatform.sha256Hex
        ((terminalReceipt none [blankAttestation.reread] signedBlank).canonicalBytes
          blankPlatform.floatText) := by
      rw [hdigest]
      decide +kernel
    have hprior : verifyContinuityExpectedPrior blankPlatform
        (terminalReceipt none [blankAttestation.reread] signedBlank) none = .ok () := by
      rw [verifyContinuityExpectedPrior]
      exact if_pos rfl
    have hkeys : allowsSigningPublicKeyHex blankPlatform signedBlank.publicKey.val none = true := by
      simp [allowsSigningPublicKeyHex]
    have hcheck := @checkReceipt_mismatch blankPlatform {} .operational _ signedBlank.digest
      hprior hkeys rfl rfl hdiffer
    have hread := normalizeReceipt_eq_ok.mpr normalizes_blank
    have htier : normalizeValidityTier blankPlatform none = .ok .operational := rfl
    rw [verifyAgentReceiptV1, htier, hread, except_ok_bind, except_ok_bind, hcheck]
    rfl

end PaybondKit.Receipt
