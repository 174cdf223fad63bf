import PaybondKit.Receipt.Draft

/-!
# Drafts that normalize

A draft has a digest exactly when each of its fields is in the form that the normalizer of the
receipt asks for.
-/

namespace PaybondKit.Receipt

open Agent

/-! ## Computations that do not raise -/

section Succeeds

variable {ε α β : Type}

def Succeeds (result : Except ε α) : Prop := ∃ value, result = .ok value

@[simp] theorem succeeds_ok (value : α) : Succeeds (.ok value : Except ε α) := ⟨value, rfl⟩

theorem succeeds_bind {first : Except ε α} {rest : α → Except ε β} :
    Succeeds (first >>= rest) ↔ ∃ value, first = .ok value ∧ Succeeds (rest value) := by
  constructor
  · rintro ⟨result, hresult⟩
    obtain ⟨value, hvalue, hrest⟩ := except_bind_eq_ok.mp hresult
    exact ⟨value, hvalue, result, hrest⟩
  · rintro ⟨value, hvalue, result, hrest⟩
    exact ⟨result, except_bind_eq_ok.mpr ⟨value, hvalue, hrest⟩⟩

/-- What comes after does not depend on the value. -/
theorem succeeds_bind_of {first : Except ε α} {rest : α → Except ε β} {P : Prop}
    (hrest : ∀ value, Succeeds (rest value) ↔ P) :
    Succeeds (first >>= rest) ↔ Succeeds first ∧ P := by
  rw [succeeds_bind]
  constructor
  · rintro ⟨value, hvalue, hnext⟩
    exact ⟨⟨value, hvalue⟩, (hrest value).mp hnext⟩
  · rintro ⟨⟨value, hvalue⟩, hP⟩
    exact ⟨value, hvalue, (hrest value).mpr hP⟩

theorem succeeds_checked {p : α → Prop} [DecidablePred p] {failure : ε} {value : α} :
    Succeeds (checked p failure value) ↔ p value := by
  constructor
  · rintro ⟨result, hresult⟩
    rw [checked_eq_ok.mp hresult]
    exact result.property
  · intro hvalue
    exact ⟨⟨value, hvalue⟩, checked_eq_ok.mpr rfl⟩

/-- An optional value is only looked at when it is there. -/
theorem succeeds_mapM {f : α → Except ε β} {value : Option α} :
    Succeeds (value.mapM f) ↔ ∀ present ∈ value, Succeeds (f present) := by
  cases value with
  | none => exact iff_of_true ⟨none, rfl⟩ nofun
  | some present =>
      have hsome : (some present).mapM f = some <$> f present := rfl
      rw [hsome]
      constructor
      · rintro ⟨result, hresult⟩ _ ⟨⟩
        obtain ⟨read, hread, -⟩ := except_map_eq_ok.mp hresult
        exact ⟨read, hread⟩
      · intro hall
        obtain ⟨read, hread⟩ := hall present rfl
        exact ⟨some read, except_map_eq_ok.mpr ⟨read, hread, rfl⟩⟩

end Succeeds

section Read

variable {platform : Platform}

theorem succeeds_requireText {failure : PyExc} {text : String} :
    Succeeds (requireText failure text) ↔ pyStrip text ≠ "" := by
  constructor
  · rintro ⟨result, hresult⟩
    rw [requireText_eq_ok.mp hresult]
    exact result.property.2
  · intro hne
    exact ⟨⟨pyStrip text, pyStrip_pyStrip text, hne⟩, requireText_eq_ok.mpr rfl⟩

theorem succeeds_requireHex64 {value field : String} :
    Succeeds (requireHex64 value field) ↔ hex64Re value = true :=
  succeeds_checked

theorem succeeds_parseUuid {value field : String} :
    Succeeds (platform.parseUuid value field) ↔ uuidRe (platform.stripLower value) = true :=
  succeeds_checked

theorem succeeds_scopeToken {value field : String} :
    Succeeds (platform.scopeToken value field) ↔
      scopeTokenRe (platform.stripLower value) = true := by
  constructor
  · rintro ⟨token, htoken⟩
    rw [Platform.scopeToken_eq_ok.mp htoken]
    exact token.property
  · intro hmatch
    exact ⟨⟨_, hmatch⟩, Platform.scopeToken_eq_ok.mpr rfl⟩

end Read

/-! ## Sections -/

section Sections

variable (platform : Platform)

structure AgentInForm (agent : ReceiptAgent) : Prop where
  operatorDid : pyStrip agent.operatorDid ≠ ""
  configHash : hex64Re (platform.stripLower agent.configHashSha256Hex) = true
  promptHash : hex64Re (platform.stripLower agent.promptHashSha256Hex) = true
  modelFamily : scopeTokenRe (platform.stripLower agent.modelFamily) = true

structure PolicyInForm (policy : ReceiptPolicy) : Prop where
  templateId : pyStrip policy.templateId ≠ ""
  contentDigest : hex64Re (platform.stripLower policy.contentDigestSha256Hex) = true

structure AuthorizationInForm (authorization : ReceiptAuthorization) : Prop where
  principalDid : pyStrip authorization.principalDid ≠ ""
  actorSubject : pyStrip authorization.actorSubject ≠ ""
  currency : Policy.currencyRe (platform.stripLower authorization.currency) = true
  requestedSpendCents : ∃ cents, authorization.requestedSpendCents = some cents ∧ 0 ≤ cents
  agent : AgentInForm platform authorization.agent
  decisionId : uuidRe (platform.stripLower authorization.decisionId) = true
  policy : PolicyInForm platform authorization.policy
  authorizedAt : Succeeds (platform.formatRfc3339Seconds authorization.authorizedAt)
  auditId : authorization.auditId ≠ "" →
    uuidRe (platform.stripLower authorization.auditId) = true

structure ExecutionInForm (execution : ReceiptExecution) : Prop where
  toolCallId : pyStrip execution.toolCallId ≠ ""
  argumentsDigest : hex64Re (platform.stripLower execution.argumentsDigestSha256Hex) = true
  runId : uuidRe (platform.stripLower execution.runId) = true
  toolName : scopeTokenRe (platform.stripLower execution.toolName) = true
  operation : scopeTokenRe (platform.stripLower execution.operation) = true
  startedAt : Succeeds (platform.formatRfc3339Seconds execution.startedAt)
  completedAt : Succeeds (platform.formatRfc3339Seconds execution.completedAt)
  resultDigest : ∀ digest, execution.resultDigestSha256Hex = some digest → digest ≠ "" →
    hex64Re (platform.stripLower digest) = true

structure MerchantInForm (merchant : ReceiptMerchant) : Prop where
  payeeDid : pyStrip merchant.payeeDid ≠ ""
  vendorId : ∀ vendor, merchant.vendorId = some vendor → vendor ≠ "" →
    scopeTokenRe (platform.stripLower vendor) = true

structure EvidenceInForm (evidence : ReceiptEvidence) : Prop where
  payloadDigest : hex64Re (platform.stripLower evidence.payloadDigestSha256Hex) = true
  payeeDid : pyStrip evidence.payeeDid ≠ ""
  completionPresetId : scopeTokenRe (platform.stripLower evidence.completionPresetId) = true
  artifactsDigest : ∀ digest, evidence.artifactsDigestSha256Hex = some digest → digest ≠ "" →
    hex64Re (platform.stripLower digest) = true

end Sections

section Normalized

variable {platform : Platform}

/-- A key that is not written is read as `None`. -/
theorem getValue_absent {fields : PyFields} {key : String}
    (hkey : key ∉ fields.entries.map Prod.fst) : fields.mapping.getValue key = .none := by
  have hnone : ∀ entries : List (String × Option PyValue), key ∉ entries.map Prod.fst →
      OrderedDict.fieldValue key entries = none := by
    intro entries hentries
    induction entries with
    | nil => rfl
    | cons entry entries ih =>
        rw [List.map_cons, List.mem_cons, not_or] at hentries
        rw [OrderedDict.fieldValue_cons_ne (Ne.symm hentries.1), ih hentries.2]
  rw [OrderedDict.getValue, OrderedDict.Fields.get?_mapping, hnone _ hkey]
  rfl

theorem succeeds_normalizeAgent {agent : ReceiptAgent} :
    Succeeds (normalizeAgent platform (.dict (draftAgent agent).items)) ↔
      AgentInForm platform agent := by
  have hepoch : ((draftAgent agent).mapping.getValue "deployment_epoch").some? = none := by
    simp [OrderedDict.getValue, OrderedDict.Fields.get?_mapping, draftAgent,
      OrderedDict.fieldValue, PyValue.some?]
  simp only [normalizeAgent, asMapping_items, except_ok_bind, Platform.strItem, item,
    OrderedDict.Fields.get?_mapping, hepoch]
  simp only [draftAgent, OrderedDict.fieldValue_cons_self, OrderedDict.fieldValue_cons_ne, ne_eq,
    String.reduceEq, not_false_eq_true, Functor.map, Except.map, Platform.str_str, except_ok_bind]
  refine (succeeds_bind_of fun _ => succeeds_bind_of fun _ => succeeds_bind_of fun _ =>
    succeeds_bind_of fun _ => iff_true_intro ⟨_, rfl⟩).trans ?_
  rw [succeeds_requireText, succeeds_requireHex64, succeeds_requireHex64, succeeds_scopeToken]
  constructor
  · rintro ⟨hoperator, hconfig, hprompt, hmodel, -⟩
    exact ⟨hoperator, hconfig, hprompt, hmodel⟩
  · rintro ⟨hoperator, hconfig, hprompt, hmodel⟩
    exact ⟨hoperator, hconfig, hprompt, hmodel, trivial⟩

theorem succeeds_normalizePolicy {policy : ReceiptPolicy} :
    Succeeds (normalizePolicy platform (.dict (draftPolicy policy).items)) ↔
      PolicyInForm platform policy := by
  have hversion : ((draftPolicy policy).mapping.getValue "version_seq").some? = none := by
    simp [OrderedDict.getValue, OrderedDict.Fields.get?_mapping, draftPolicy,
      OrderedDict.fieldValue, PyValue.some?]
  have hspend : ((draftPolicy policy).mapping.getValue "spend_policy_version").some? = none := by
    simp [OrderedDict.getValue, OrderedDict.Fields.get?_mapping, draftPolicy,
      OrderedDict.fieldValue, PyValue.some?]
  simp only [normalizePolicy, asMapping_items, except_ok_bind, Platform.strItem, item,
    OrderedDict.Fields.get?_mapping, hversion, hspend]
  simp only [draftPolicy, OrderedDict.fieldValue_cons_self, OrderedDict.fieldValue_cons_ne, ne_eq,
    String.reduceEq, not_false_eq_true, Functor.map, Except.map, Platform.str_str, except_ok_bind]
  refine (succeeds_bind_of fun _ => succeeds_bind_of fun _ => iff_true_intro ⟨_, rfl⟩).trans ?_
  rw [succeeds_requireText, succeeds_requireHex64]
  constructor
  · rintro ⟨htemplate, hdigest, -⟩
    exact ⟨htemplate, hdigest⟩
  · rintro ⟨htemplate, hdigest⟩
    exact ⟨htemplate, hdigest, trivial⟩

/-- What counts as true of a text is what is not empty. -/
theorem mem_truthy?_str {text : String} {value : PyValue} :
    value ∈ (PyValue.str text).truthy? ↔ text ≠ "" ∧ value = .str text := by
  by_cases hempty : text = ""
  · simp [PyValue.truthy?, PyValue.truthy, hempty]
  · simp [PyValue.truthy?, PyValue.truthy, hempty, eq_comm]

/-- `int(None)` raises. -/
theorem succeeds_spend {α : Type} {spend : Option Int} {failure : PyExc}
    {rest : { cents : Int // 0 ≤ cents } → Except PyExc α} {P : Prop}
    (hrest : ∀ cents, Succeeds (rest cents) ↔ P) :
    Succeeds (do
      let value ← platform.int ((spend.map PyValue.int).getD .none)
      let cents ← checked (0 ≤ ·) failure value
      rest cents) ↔ (∃ cents, spend = some cents ∧ 0 ≤ cents) ∧ P := by
  cases spend with
  | none =>
      constructor
      · rintro ⟨result, hresult⟩
        cases hresult
      · rintro ⟨⟨cents, hcents, -⟩, -⟩
        cases hcents
  | some cents =>
      simp only [Option.map_some, Option.getD_some, Platform.int_int, except_ok_bind,
        succeeds_bind_of hrest, succeeds_checked, Option.some.injEq, exists_eq_left']

/-- A draft names no mandate. -/
theorem normalizeMandate_draft (laws : platform.LowerLaws)
    {authorization : ReceiptAuthorization} :
    normalizeMandate platform (draftAuthorization authorization).mapping = .ok none := by
  have hdigest : (draftAuthorization authorization).mapping.getValue
      "mandate_digest_sha256_hex" = .none :=
    getValue_absent (by simp [draftAuthorization])
  have hreference : (draftAuthorization authorization).mapping.getValue
      "mandate_reference_id" = .none :=
    getValue_absent (by simp [draftAuthorization])
  have hoptional : ∀ field, platform.optionalHex64 .none field = .ok none :=
    Platform.optionalHex64_hex64 laws none
  rw [normalizeMandate, hdigest, hreference, hoptional]
  rfl

theorem mandate_of_normalizeAuthorization (laws : platform.LowerLaws)
    {authorization : ReceiptAuthorization} {read : AuthorizationSection}
    (hread : normalizeAuthorization platform (.dict (draftAuthorization authorization).items) =
      .ok read) : read.mandate = none := by
  simp only [normalizeAuthorization, asMapping_items, except_ok_bind,
    normalizeMandate_draft laws, except_bind_eq_ok, except_pure_eq_ok] at hread
  obtain ⟨_, -, _, -, _, -, _, -, _, -, _, -, _, -, _, -, _, -, _, -, _, -, _, -, _, -, _, -, _, -,
    _, -, _, -, _, -, _, -, _, -, rfl⟩ := hread
  rfl

theorem succeeds_normalizeAuthorization (laws : platform.LowerLaws)
    {authorization : ReceiptAuthorization} :
    Succeeds (normalizeAuthorization platform (.dict (draftAuthorization authorization).items)) ↔
      AuthorizationInForm platform authorization := by
  have hreasons : (draftAuthorization authorization).mapping.getValue "reason_codes" = .none :=
    getValue_absent (by simp [draftAuthorization])
  have hproof : (draftAuthorization authorization).mapping.getValue
      "zk_policy_proof_digest_sha256_hex" = .none :=
    getValue_absent (by simp [draftAuthorization])
  have haudit : (draftAuthorization authorization).mapping.getValue "audit_id" =
      .str authorization.auditId := by
    simp [OrderedDict.getValue, OrderedDict.Fields.get?_mapping, draftAuthorization]
  have hscopes : platform.normalizeScopeSet .none "reason_codes" = .ok .empty := rfl
  have hoptional : ∀ field, platform.optionalHex64 .none field = .ok none :=
    Platform.optionalHex64_hex64 laws none
  have hmandate := @normalizeMandate_draft platform laws authorization
  simp only [normalizeAuthorization, asMapping_items, except_ok_bind, Platform.strItem, item,
    OrderedDict.Fields.get?_mapping, haudit, hmandate, hreasons, hproof, hscopes, hoptional]
  simp only [draftAuthorization, OrderedDict.fieldValue_cons_self, OrderedDict.fieldValue_cons_ne,
    ne_eq, String.reduceEq, not_false_eq_true, Functor.map, Except.map, Platform.str_str,
    except_ok_bind]
  refine (succeeds_bind_of fun _ => succeeds_bind_of fun _ => succeeds_bind_of fun _ =>
    succeeds_spend fun _ => succeeds_bind_of fun _ => succeeds_bind_of fun _ =>
      succeeds_bind_of fun _ => succeeds_bind_of fun _ => succeeds_bind_of fun _ =>
        iff_true_intro ⟨_, rfl⟩).trans ?_
  rw [succeeds_requireText, succeeds_requireText, succeeds_checked, succeeds_normalizeAgent,
    succeeds_parseUuid, succeeds_normalizePolicy, succeeds_mapM]
  simp only [mem_truthy?_str, and_imp, forall_eq_apply_imp_iff, Platform.str_str,
    succeeds_parseUuid]
  constructor
  · rintro ⟨hprincipal, hactor, hcurrency, hspend, hagent, hdecision, hpolicy, htime, haudit, -⟩
    exact ⟨hprincipal, hactor, hcurrency, hspend, hagent, hdecision, hpolicy, htime, haudit⟩
  · rintro ⟨hprincipal, hactor, hcurrency, hspend, hagent, hdecision, hpolicy, htime, haudit⟩
    exact ⟨hprincipal, hactor, hcurrency, hspend, hagent, hdecision, hpolicy, htime, haudit,
      trivial⟩

/-- Of an optional text what counts as true is looked at. -/
theorem forall_truthy?_map {text : Option String} {P : PyValue → Prop} :
    (∀ value ∈ ((text.map PyValue.str).getD .none).truthy?, P value) ↔
      ∀ present, text = some present → present ≠ "" → P (.str present) := by
  cases text with
  | none => simp [PyValue.truthy?, PyValue.truthy]
  | some present =>
      constructor
      · rintro hall _ ⟨⟩ hne
        exact hall _ (mem_truthy?_str.mpr ⟨hne, rfl⟩)
      · intro hall value hvalue
        obtain ⟨hne, rfl⟩ := mem_truthy?_str.mp hvalue
        exact hall present rfl hne

theorem succeeds_normalizeExecution (laws : platform.LowerLaws) {execution : ReceiptExecution}
    (houtcome : execution.outcome = "executed") :
    Succeeds (normalizeExecution platform (.dict (draftExecution execution).items)) ↔
      ExecutionInForm platform execution := by
  have hproof : (draftExecution execution).mapping.getValue
      "tee_attestation_digest_sha256_hex" = .none :=
    getValue_absent (by simp [draftExecution])
  have hresult : (draftExecution execution).mapping.getValue "result_digest_sha256_hex" =
      (execution.resultDigestSha256Hex.map .str).getD .none := by
    simp [OrderedDict.getValue, OrderedDict.Fields.get?_mapping, draftExecution]
  have hduration : (draftExecution execution).mapping.getValue "duration_ms" =
      .int execution.durationMs := by
    simp [OrderedDict.getValue, OrderedDict.Fields.get?_mapping, draftExecution]
  have hoptional : ∀ field, platform.optionalHex64 .none field = .ok none :=
    Platform.optionalHex64_hex64 laws none
  have hexecuted : ∀ failure, oneOf ExecutionOutcome.text [.executed, .denied, .skipped, .failed]
      failure (platform.stripLower "executed") = .ok .executed := by
    intro failure
    rw [Platform.stripLower_eq_self laws (forall_mem_of_all (by decide))]
    rfl
  have hms : ∀ failure : PyExc, (PyValue.int (execution.durationMs : ℤ)).some?.mapM
      (fun duration => do checked (0 ≤ ·) failure (← platform.int duration)) =
        .ok (some ⟨execution.durationMs, Int.natCast_nonneg _⟩) := by
    intro failure
    have hchecked : checked (0 ≤ ·) failure (execution.durationMs : ℤ) =
        .ok ⟨execution.durationMs, Int.natCast_nonneg _⟩ := checked_eq_ok.mpr rfl
    simp only [PyValue.some?, Option.mapM_some, Platform.int_int, except_ok_bind, hchecked]
    rfl
  simp only [normalizeExecution, asMapping_items, except_ok_bind, Platform.strItem, item,
    OrderedDict.Fields.get?_mapping, hproof, hresult, hduration, hoptional, hms]
  simp only [draftExecution, OrderedDict.fieldValue_cons_self, OrderedDict.fieldValue_cons_ne,
    ne_eq, String.reduceEq, not_false_eq_true, Functor.map, Except.map, Platform.str_str,
    except_ok_bind, houtcome, hexecuted]
  refine (succeeds_bind_of fun _ => succeeds_bind_of fun _ => succeeds_bind_of fun _ =>
    succeeds_bind_of fun _ => succeeds_bind_of fun _ => succeeds_bind_of fun _ =>
      succeeds_bind_of fun _ => succeeds_bind_of fun _ => iff_true_intro ⟨_, rfl⟩).trans ?_
  rw [succeeds_requireText, succeeds_requireHex64, succeeds_parseUuid, succeeds_scopeToken,
    succeeds_scopeToken, Platform.truthyHex64, succeeds_mapM, forall_truthy?_map]
  simp only [Platform.str_str, succeeds_requireHex64]
  constructor
  · rintro ⟨hcall, harguments, hrun, htool, hoperation, hstarted, hcompleted, hresult, -⟩
    exact ⟨hcall, harguments, hrun, htool, hoperation, hstarted, hcompleted, hresult⟩
  · rintro ⟨hcall, harguments, hrun, htool, hoperation, hstarted, hcompleted, hresult⟩
    exact ⟨hcall, harguments, hrun, htool, hoperation, hstarted, hcompleted, hresult, trivial⟩

theorem succeeds_normalizeMerchant {merchant : ReceiptMerchant} :
    Succeeds (normalizeMerchant platform (.dict (draftMerchant merchant).items)) ↔
      MerchantInForm platform merchant := by
  have hvendor : (draftMerchant merchant).mapping.getValue "vendor_id" =
      (merchant.vendorId.map .str).getD .none := by
    simp [OrderedDict.getValue, OrderedDict.Fields.get?_mapping, draftMerchant]
  simp only [normalizeMerchant, asMapping_items, except_ok_bind, Platform.strItem, item,
    OrderedDict.Fields.get?_mapping, hvendor]
  simp only [draftMerchant, OrderedDict.fieldValue_cons_self, Functor.map, Except.map,
    Platform.str_str, except_ok_bind]
  refine (succeeds_bind_of fun _ => succeeds_bind_of fun _ => iff_true_intro ⟨_, rfl⟩).trans ?_
  rw [succeeds_requireText, Platform.truthyToken, succeeds_mapM, forall_truthy?_map]
  simp only [Platform.str_str, succeeds_scopeToken]
  constructor
  · rintro ⟨hpayee, hvendor, -⟩
    exact ⟨hpayee, hvendor⟩
  · rintro ⟨hpayee, hvendor⟩
    exact ⟨hpayee, hvendor, trivial⟩

theorem succeeds_normalizeEvidence {evidence : ReceiptEvidence} :
    Succeeds (normalizeEvidence platform (.dict (draftEvidence evidence).items)) ↔
      EvidenceInForm platform evidence := by
  have hartifacts : (draftEvidence evidence).mapping.getValue "artifacts_digest_sha256_hex" =
      (evidence.artifactsDigestSha256Hex.map .str).getD .none := by
    simp [OrderedDict.getValue, OrderedDict.Fields.get?_mapping, draftEvidence]
  have hsignature : ((draftEvidence evidence).mapping.getValue
      "payee_signature_digest_sha256_hex") = .none :=
    getValue_absent (by simp [draftEvidence])
  have hunsigned : ∀ field, platform.truthyHex64 .none field = .ok none := fun _ => rfl
  simp only [normalizeEvidence, asMapping_items, except_ok_bind, Platform.strItem, item,
    OrderedDict.Fields.get?_mapping, hartifacts, hsignature, hunsigned]
  simp only [draftEvidence, OrderedDict.fieldValue_cons_self, OrderedDict.fieldValue_cons_ne, ne_eq,
    String.reduceEq, not_false_eq_true, Functor.map, Except.map, Platform.str_str, except_ok_bind]
  refine (succeeds_bind_of fun _ => succeeds_bind_of fun _ => succeeds_bind_of fun _ =>
    succeeds_bind_of fun _ => iff_true_intro ⟨_, rfl⟩).trans ?_
  rw [succeeds_requireHex64, succeeds_requireText, succeeds_scopeToken, Platform.truthyHex64,
    succeeds_mapM, forall_truthy?_map]
  simp only [Platform.str_str, succeeds_requireHex64]
  constructor
  · rintro ⟨hpayload, hpayee, hpreset, hartifacts, -⟩
    exact ⟨hpayload, hpayee, hpreset, hartifacts⟩
  · rintro ⟨hpayload, hpayee, hpreset, hartifacts⟩
    exact ⟨hpayload, hpayee, hpreset, hartifacts, trivial⟩

/-- The spend of an execution is consumed, which a receipt knows. -/
theorem succeeds_normalizeOutcome (laws : platform.LowerLaws) {outcome : ReceiptOutcome}
    (hspend : outcome.spendReservationOutcome = "consumed") {scope : ReceiptScope} :
    Succeeds (normalizeOutcome platform (.dict (draftOutcome outcome).items) scope) ↔
      scopeTokenRe (platform.stripLower outcome.harborState) = true := by
  have hsettlement : (draftOutcome outcome).mapping.getValue "settlement_outcome" = .none :=
    getValue_absent (by simp [draftOutcome])
  have hreservation : (draftOutcome outcome).mapping.getValue "spend_reservation_outcome" =
      .str "consumed" := by
    simp [OrderedDict.getValue, OrderedDict.Fields.get?_mapping, draftOutcome, hspend]
  have hconsumed : ∀ failure : PyExc, (PyValue.str "consumed").truthy?.mapM (fun outcome =>
      oneOf SpendReservationOutcome.text [.consumed, .released, .pending, .none] failure
        (platform.stripLower (platform.str outcome))) = .ok (some .consumed) := by
    intro failure
    have hlower : platform.stripLower "consumed" = "consumed" :=
      Platform.stripLower_eq_self laws (forall_mem_of_all (by decide))
    have htruthy : (PyValue.str "consumed").truthy? = some (.str "consumed") := rfl
    rw [htruthy, Option.mapM_some, Platform.str_str, hlower]
    rfl
  have hstrip : pyStrip "" = "" := by decide +kernel
  have hblank : pyStrip (platform.strOrBlank .none) = "" := hstrip
  simp only [normalizeOutcome, asMapping_items, except_ok_bind, Platform.strItem, item,
    OrderedDict.Fields.get?_mapping, hsettlement, hreservation, hconsumed, hblank, if_true]
  simp only [draftOutcome, OrderedDict.fieldValue_cons_self, Functor.map, Except.map,
    Platform.str_str, except_ok_bind]
  refine (succeeds_bind_of fun _ => iff_true_intro ⟨_, rfl⟩).trans ?_
  rw [succeeds_scopeToken, and_true]

def draftReferences (intentId : String) : PyFields where
  entries := [("intent_id", some (.str intentId)), ("settlement_receipt_id", some .none)]
  nodup := by simp

theorem normalizeReferences_draft {intentId : String} {references : ReferencesSection} :
    normalizeReferences platform
        (.dict [("intent_id", .str intentId), ("settlement_receipt_id", .none)]) = .ok references ↔
      ∃ id : Uuid, platform.stripLower intentId = id.val ∧
        references =
          { intentId := id, settlementReceiptId := .falsy .none rfl, ledgerSeq := none } := by
  have hfields : PyValue.dict [("intent_id", .str intentId), ("settlement_receipt_id", .none)] =
      .dict (draftReferences intentId).items := rfl
  have hseq : ((draftReferences intentId).mapping.getValue "ledger_seq").truthy? = none := by
    rw [getValue_absent (by simp [draftReferences])]
    rfl
  have hreceipt : (draftReferences intentId).mapping.getValue "settlement_receipt_id" = .none := by
    simp [OrderedDict.getValue, OrderedDict.Fields.get?_mapping, draftReferences]
  have hnone : normalizeSettlementReceiptId platform .none = .ok (.falsy .none rfl) := rfl
  rw [hfields]
  simp only [normalizeReferences, asMapping_items, except_ok_bind, Platform.strItem, item,
    OrderedDict.Fields.get?_mapping, hseq, hreceipt, hnone]
  simp only [draftReferences, OrderedDict.fieldValue_cons_self, Functor.map, Except.map,
    Platform.str_str, except_ok_bind]
  have hzero : Option.mapM platform.int (none : Option PyValue) = .ok none := rfl
  have hnonnegative : raiseIf ((none : Option ℤ).getD 0 < 0)
      (PyExc.valueError "agent receipt: ledger_seq must be non-negative") = .ok () :=
    raiseIf_eq_ok.mpr (by simp)
  rw [hzero, except_ok_bind, hnonnegative, except_ok_bind, except_bind_eq_ok]
  refine exists_congr fun id => ?_
  rw [Platform.parseUuid_eq_ok, except_pure_eq_ok, eq_comm (b := references)]
  rfl

theorem succeeds_list_mapM {α β : Type} {f : α → Except PyExc β} {items : List α} :
    Succeeds (items.mapM f) ↔ ∀ item ∈ items, Succeeds (f item) := by
  induction items with
  | nil => exact iff_of_true ⟨[], rfl⟩ nofun
  | cons item items ih =>
      rw [List.mapM_cons, List.forall_mem_cons, ← ih]
      refine (succeeds_bind_of fun _ => succeeds_bind_of fun _ => iff_true_intro ⟨_, rfl⟩).trans ?_
      rw [and_true]

theorem succeeds_normalizeExternalAttestations {attestations : List PyValue} :
    Succeeds (normalizeExternalAttestations platform (.list attestations)) ↔
      ∀ attestation ∈ attestations,
        Succeeds (normalizeExternalAttestation platform attestation) := by
  cases attestations with
  | nil => exact iff_of_true ⟨[], rfl⟩ fun _ hmem => absurd hmem List.not_mem_nil
  | cons first rest => exact succeeds_list_mapM

/-! ## Whole drafts -/

/-- What every draft is written with. -/
structure DraftConstants (draft : AgentReceiptDraft) : Prop where
  schemaVersion : draft.schemaVersion = 1
  kind : draft.kind = agentReceiptKindV1
  receiptVersion : draft.receiptVersion = agentReceiptVersionV1
  scope : draft.scope = "action"
  signingAlgorithm : draft.signingAlgorithm = agentReceiptSigningAlgorithmEd25519
  executed : draft.execution.outcome = "executed"
  consumed : draft.outcome.spendReservationOutcome = "consumed"

variable (platform) in
structure DraftInForm (draft : AgentReceiptDraft) : Prop where
  tenantId : pyStrip draft.tenantId ≠ ""
  authorization : AuthorizationInForm platform draft.authorization
  intentId : uuidRe (platform.stripLower draft.intentId) = true
  externalAttestations : ∀ attestation ∈ draft.externalAttestations,
    Succeeds (normalizeExternalAttestation platform attestation)
  harborState : scopeTokenRe (platform.stripLower draft.outcome.harborState) = true
  execution : ExecutionInForm platform draft.execution
  issuedAt : Succeeds (platform.formatRfc3339Seconds draft.issuedAt)
  merchant : ∀ merchant ∈ draft.merchant, MerchantInForm platform merchant
  evidence : ∀ evidence ∈ draft.evidence, EvidenceInForm platform evidence
  receiptId : platform.stripLower draft.receiptId = actionReceiptId platform
    (platform.stripLower draft.intentId) (pyStrip draft.execution.toolCallId)

theorem item_draftMapping {draft : AgentReceiptDraft} {key : String} {value : PyValue}
    (hvalue : OrderedDict.fieldValue key (draftFields draft).entries = some value) :
    item (draftMapping draft) key = .ok value := by
  rw [item, get?_draftMapping, hvalue]

theorem strItem_draftMapping {draft : AgentReceiptDraft} {key text : String}
    (hvalue : OrderedDict.fieldValue key (draftFields draft).entries = some (.str text)) :
    platform.strItem (draftMapping draft) key = .ok text := by
  rw [Platform.strItem, item_draftMapping hvalue]
  rfl

theorem getValue_draftMapping {draft : AgentReceiptDraft} {key : String} {value : Option PyValue}
    (hvalue : OrderedDict.fieldValue key (draftFields draft).entries = value) :
    (draftMapping draft).getValue key = value.getD .none := by
  rw [OrderedDict.getValue, get?_draftMapping, hvalue]

/-- A section that may be left out. -/
theorem succeeds_section {α β : Type} {fields : α → PyFields} {f : PyValue → Except PyExc β}
    {InForm : α → Prop} (hsection : ∀ part, Succeeds (f (.dict (fields part).items)) ↔ InForm part)
    {part : Option α} :
    Succeeds (((part.map fun part => PyValue.dict (fields part).items).getD .none).some?.mapM f) ↔
      ∀ present ∈ part, InForm present := by
  rw [some?_dict, succeeds_mapM]
  cases part with
  | none => exact iff_of_true nofun nofun
  | some part => simp [hsection]

variable (platform) in
/-- The values under the keys of a draft. -/
structure DraftValues (draft : AgentReceiptDraft) : Prop where
  receiptId : platform.strItem (draftMapping draft) "receipt_id" = .ok draft.receiptId
  scope : platform.strItem (draftMapping draft) "scope" = .ok draft.scope
  tenantId : platform.strItem (draftMapping draft) "tenant_id" = .ok draft.tenantId
  issuedAt : platform.strItem (draftMapping draft) "issued_at" = .ok draft.issuedAt
  authorization : item (draftMapping draft) "authorization" =
    .ok (.dict (draftAuthorization draft.authorization).items)
  references : item (draftMapping draft) "references" =
    .ok (.dict [("intent_id", .str draft.intentId), ("settlement_receipt_id", .none)])
  outcome : item (draftMapping draft) "outcome" = .ok (.dict (draftOutcome draft.outcome).items)
  externalAttestations : (draftMapping draft).getValue "external_attestations" =
    .list draft.externalAttestations
  execution : (draftMapping draft).getValue "execution" =
    .dict (draftExecution draft.execution).items
  merchant : (draftMapping draft).getValue "merchant" =
    (draft.merchant.map fun merchant => PyValue.dict (draftMerchant merchant).items).getD .none
  evidence : (draftMapping draft).getValue "evidence" =
    (draft.evidence.map fun evidence => PyValue.dict (draftEvidence evidence).items).getD .none
  absent : ∀ key ∉ (draftFields draft).entries.map Prod.fst,
    (draftMapping draft).getValue key = .none

theorem draftValues (draft : AgentReceiptDraft) : DraftValues platform draft where
  receiptId := strItem_draftMapping (by simp [draftFields])
  scope := strItem_draftMapping (by simp [draftFields])
  tenantId := strItem_draftMapping (by simp [draftFields])
  issuedAt := strItem_draftMapping (by simp [draftFields])
  authorization := item_draftMapping (by simp [draftFields])
  references := item_draftMapping (by simp [draftFields])
  outcome := item_draftMapping (by simp [draftFields])
  externalAttestations := @getValue_draftMapping _ _ (some _) (by simp [draftFields])
  execution := @getValue_draftMapping _ _ (some _) (by simp [draftFields])
  merchant := getValue_draftMapping (by simp [draftFields])
  evidence := getValue_draftMapping (by simp [draftFields])
  absent _ := getValue_absent

theorem parse_action (laws : platform.LowerLaws) :
    ReceiptScope.parse (platform.stripLower "action") = .ok .action := by
  rw [Platform.stripLower_eq_self laws (forall_mem_of_all (by decide))]
  rfl

theorem executionOf_draft (draft : AgentReceiptDraft) :
    executionOf platform (draftMapping draft) .action =
      some <$> normalizeExecution platform (.dict (draftExecution draft.execution).items) := by
  rw [executionOf, (@draftValues platform draft).execution]
  rfl

theorem verifyReceiptId_action {normalized : AgentReceipt} {execution : ExecutionSection}
    (hscope : normalized.scope = .action) (hexecution : normalized.execution = some execution) :
    verifyReceiptId platform normalized = .ok () ↔
      normalized.receiptId = actionReceiptId platform normalized.references.intentId.val
        execution.toolCallId.val ∧ hex64Re normalized.receiptId = true := by
  simp only [verifyReceiptId, hscope, hexecution, except_bind_eq_ok, raiseIf_eq_ok, not_not,
    exists_const, except_pure_eq_ok, and_true]
  exact and_congr_right fun _ => succeeds_requireHex64

theorem Normalizes.draftInForm (laws : platform.LowerLaws) {draft : AgentReceiptDraft}
    (hconstants : DraftConstants draft) {normalized : AgentReceipt}
    (h : Normalizes platform (draftMapping draft) normalized) : DraftInForm platform draft := by
  have hvalues := @draftValues platform draft
  have haction : normalized.scope = .action := by
    obtain ⟨text, htext, hparse⟩ := h.scope
    rw [hvalues.scope, hconstants.scope] at htext
    rw [← Except.ok.inj htext, parse_action laws] at hparse
    exact (Except.ok.inj hparse).symm
  obtain ⟨_, hauthorization, hread⟩ := h.authorization
  obtain rfl := Except.ok.inj (hvalues.authorization.symm.trans hauthorization)
  obtain ⟨_, hreferences, hreferred⟩ := h.references
  obtain rfl := Except.ok.inj (hvalues.references.symm.trans hreferences)
  obtain ⟨intentId, hintent, hreferred⟩ := normalizeReferences_draft.mp hreferred
  obtain ⟨_, houtcome, hended⟩ := h.outcome
  obtain rfl := Except.ok.inj (hvalues.outcome.symm.trans houtcome)
  obtain ⟨_, htenant, hnamed⟩ := h.tenantId
  obtain rfl := Except.ok.inj (hvalues.tenantId.symm.trans htenant)
  obtain ⟨_, hissued, hformatted⟩ := h.issuedAt
  obtain rfl := Except.ok.inj (hvalues.issuedAt.symm.trans hissued)
  obtain ⟨_, hid, hlowered⟩ := h.receiptId
  obtain rfl := Except.ok.inj (hvalues.receiptId.symm.trans hid)
  have hattested := h.externalAttestations
  rw [hvalues.externalAttestations] at hattested
  have hexecuted := h.execution
  rw [haction, executionOf_draft, except_map_eq_ok] at hexecuted
  obtain ⟨execution, hexecution, hsome⟩ := hexecuted
  have hsold := h.merchant
  rw [hvalues.merchant] at hsold
  have hproved := h.evidence
  rw [hvalues.evidence] at hproved
  refine ⟨?_, ?_, ?_, ?_, ?_, ?_, ?_, ?_, ?_, ?_⟩
  · rw [hnamed]
    exact normalized.tenantId.property.2
  · exact (succeeds_normalizeAuthorization laws).mp ⟨_, hread⟩
  · rw [hintent]
    exact intentId.property
  · exact succeeds_normalizeExternalAttestations.mp ⟨_, hattested⟩
  · exact (succeeds_normalizeOutcome laws hconstants.consumed).mp ⟨_, hended⟩
  · exact (succeeds_normalizeExecution laws hconstants.executed).mp ⟨_, hexecution⟩
  · exact ⟨_, hformatted⟩
  · exact (succeeds_section fun _ => succeeds_normalizeMerchant).mp ⟨_, hsold⟩
  · exact (succeeds_section fun _ => succeeds_normalizeEvidence).mp ⟨_, hproved⟩
  · obtain ⟨hcall, -⟩ := normalizeExecution_draft hexecution
    have hholds := ((verifyReceiptId_action haction hsome.symm).mp h.receiptIdHolds).1
    rw [hreferred, hcall, ← hlowered] at hholds
    rw [hholds, hintent]

theorem DraftInForm.normalizes (laws : platform.LowerLaws) (hhex : platform.HexDigests)
    {draft : AgentReceiptDraft} (hconstants : DraftConstants draft)
    (h : DraftInForm platform draft) :
    ∃ normalized, Normalizes platform (draftMapping draft) normalized := by
  have hvalues := @draftValues platform draft
  obtain ⟨authorization, hauthorization⟩ :=
    (succeeds_normalizeAuthorization laws).mpr h.authorization
  obtain ⟨attestations, hattestations⟩ :=
    succeeds_normalizeExternalAttestations.mpr h.externalAttestations
  obtain ⟨outcome, houtcome⟩ := (@succeeds_normalizeOutcome platform laws _ hconstants.consumed
    .action).mpr h.harborState
  obtain ⟨execution, hexecution⟩ :=
    (succeeds_normalizeExecution laws hconstants.executed).mpr h.execution
  obtain ⟨issuedAt, hissued⟩ := h.issuedAt
  obtain ⟨merchant, hmerchant⟩ :=
    (succeeds_section fun _ => succeeds_normalizeMerchant).mpr h.merchant
  obtain ⟨evidence, hevidence⟩ :=
    (succeeds_section fun _ => succeeds_normalizeEvidence).mpr h.evidence
  let references : ReferencesSection :=
    { intentId := ⟨_, h.intentId⟩, settlementReceiptId := .falsy .none rfl, ledgerSeq := none }
  have hconstant : ∀ key constant, (draftMapping draft).get? key = some (.str constant) →
      pyStrip constant = constant → requireConstant platform (draftMapping draft) key constant =
        .ok () := by
    intro key constant hget hstrip
    rw [requireConstant, hget, Option.getD_some, Platform.str_str, hstrip]
    exact raiseIf_eq_ok.mpr (by simp)
  have hhexId : hex64Re (platform.stripLower draft.receiptId) = true := by
    rw [h.receiptId]
    exact hhex _
  have hmandate : verifyMandateAuthorizationConsistency platform authorization attestations =
      .ok () := by
    rw [verifyMandateAuthorizationConsistency,
      mandate_of_normalizeAuthorization laws hauthorization]
  have habsent : ∀ {α : Type} (f : PyValue → Except PyExc α),
      ∀ key ∉ (draftFields draft).entries.map Prod.fst,
        ((draftMapping draft).getValue key).some?.mapM f = .ok none := by
    intro α f key hkey
    rw [hvalues.absent key hkey]
    rfl
  refine ⟨{
    scope := .action, receiptId := platform.stripLower draft.receiptId, issuedAt
    tenantId := ⟨_, pyStrip_pyStrip _, h.tenantId⟩, authorization, outcome, references
    externalAttestations := attestations
    signingAlgorithm :=
      let algorithm := platform.stripLower <| platform.str <|
        ((draftMapping draft).get? "signing_algorithm").getD
          (.str agentReceiptSigningAlgorithmEd25519)
      if algorithm = "" then agentReceiptSigningAlgorithmEd25519 else algorithm
    messageDigestSha256Hex := platform.stripLower draft.messageDigestSha256Hex
    signingPublicKeyEd25519Hex := platform.stripLower draft.signingPublicKeyEd25519Hex
    ed25519SignatureHex := platform.stripLower draft.ed25519SignatureHex
    execution := some execution, merchant, evidence, payment := none, continuity := none
    operatorAttestation := none }, ?_⟩
  exact
    { schemaVersion := by
        have hversion : (draftMapping draft).get? "schema_version" = some (.int 1) := by
          simp [get?_draftMapping, draftFields, hconstants.schemaVersion]
        rw [hversion]
        exact .inr rfl
      kind := hconstant _ _ (by simp [get?_draftMapping, draftFields, hconstants.kind])
        (by decide +kernel)
      receiptVersion := hconstant _ _
        (by simp [get?_draftMapping, draftFields, hconstants.receiptVersion]) (by decide +kernel)
      scope := ⟨_, hvalues.scope, by rw [hconstants.scope, parse_action laws]⟩
      receiptId := ⟨_, hvalues.receiptId, rfl⟩
      receiptId_ne := Matching.ne_empty (by decide) ⟨_, hhexId⟩
      tenantId := ⟨_, hvalues.tenantId, rfl⟩
      authorization := ⟨_, hvalues.authorization, hauthorization⟩
      references := ⟨_, hvalues.references, normalizeReferences_draft.mpr ⟨_, rfl, rfl⟩⟩
      externalAttestations := by rw [hvalues.externalAttestations, hattestations]
      mandate := hmandate
      outcome := ⟨_, hvalues.outcome, houtcome⟩
      execution := by rw [executionOf_draft, hexecution]; rfl
      issuedAt := ⟨_, hvalues.issuedAt, hissued⟩
      signingAlgorithm := rfl
      messageDigest := ⟨_, strItem_draftMapping (by simp [draftFields]), rfl⟩
      publicKey := ⟨_, strItem_draftMapping (by simp [draftFields]), rfl⟩
      signature := ⟨_, strItem_draftMapping (by simp [draftFields]), rfl⟩
      merchant := by rw [hvalues.merchant, hmerchant]
      evidence := by rw [hvalues.evidence, hevidence]
      payment := habsent _ _ (by simp [draftFields])
      continuity := habsent _ _ (by simp [draftFields])
      operatorAttestation := habsent _ _ (by simp [draftFields])
      receiptIdHolds := by
        refine (verifyReceiptId_action rfl rfl).mpr ⟨?_, hhexId⟩
        rw [h.receiptId, (normalizeExecution_draft hexecution).1] }

/-- A draft normalizes exactly when all its fields are in form. -/
theorem succeeds_normalizeReceipt (laws : platform.LowerLaws) (hhex : platform.HexDigests)
    {draft : AgentReceiptDraft} (hconstants : DraftConstants draft) :
    Succeeds (normalizeReceipt platform (draftMapping draft)) ↔ DraftInForm platform draft := by
  constructor
  · rintro ⟨normalized, hnormalized⟩
    exact (normalizeReceipt_eq_ok.mp hnormalized).draftInForm laws hconstants
  · intro hform
    obtain ⟨normalized, hnormalizes⟩ := hform.normalizes laws hhex hconstants
    exact ⟨normalized, normalizeReceipt_eq_ok.mpr hnormalizes⟩

end Normalized

/-! ## A hotel booking -/

/-- The draft of the booking, without its digest. -/
def draftDrafted : AgentReceiptDraft where
  receiptId := actionReceiptId platformDrafted bindingDrafted.intentId "call-1"
  issuedAt := "2026-01-01T00:00:00Z"
  tenantId := "tenant"
  authorization :=
    { principalDid := "did:web:principal.example"
      actorSubject := "did:web:operator.example"
      agent :=
        { operatorDid := "did:web:operator.example"
          modelFamily := "gpt"
          modelInstanceId := none
          configHashSha256Hex := "44136fa355b3678a1146ad16f7e8649e94fb4fc21fe77e8310c060f61caaff8a"
          promptHashSha256Hex :=
            "e3b0c44298fc1c149afbf4c8996fb92427ae41e4649b934ca495991b7852b855" }
      decisionId := "6ba7b810-9dad-11d1-80b4-00c04fd430c8"
      auditId := "3f2504e0-4f89-41d3-9a0c-0305e82c3301"
      policy :=
        { templateId := "travel"
          contentDigestSha256Hex := bareDigest
            "sha256:44136fa355b3678a1146ad16f7e8649e94fb4fc21fe77e8310c060f61caaff8a" }
      authorizedAt := "2026-01-01T00:00:00Z"
      requestedSpendCents := some 15000
      currency := "usd" }
  execution :=
    { runId := "7b5e2c1a-9d3f-4c8b-a6e1-2f4d6c8b0a13"
      toolCallId := "call-1"
      toolName := "travel.book_hotel"
      operation := "travel.book_hotel"
      argumentsDigestSha256Hex := valueDigestSha256Hex platformDrafted (.dict [])
      resultDigestSha256Hex := some (valueDigestSha256Hex platformDrafted (.dict []))
      startedAt := "2026-01-01T00:00:00Z"
      completedAt := "2026-01-01T00:00:00Z"
      durationMs := 5 }
  outcome := { harborState := "evidence_submitted", predicatePassed := some true }
  intentId := "550e8400-e29b-41d4-a716-446655440000"
  externalAttestations := []
  merchant := some { payeeDid := "did:web:hotel.example", vendorId := some "hotel-1" }
  evidence := some
    { completionPresetId := "cost_and_completion"
      payloadDigestSha256Hex := "e3b0c44298fc1c149afbf4c8996fb92427ae41e4649b934ca495991b7852b855"
      predicatePassed := true
      payeeDid := "did:web:hotel.example"
      artifactsDigestSha256Hex := none }

theorem bareDigest_ofList (digest : List Char) :
    bareDigest (String.ofList ('s' :: 'h' :: 'a' :: '2' :: '5' :: '6' :: ':' :: digest)) =
      String.ofList digest := by
  have hchars : (String.ofList ('s' :: 'h' :: 'a' :: '2' :: '5' :: '6' :: ':' :: digest)).toList =
      's' :: 'h' :: 'a' :: '2' :: '5' :: '6' :: ':' :: digest := String.toList_ofList
  rw [bareDigest, hchars]
  rfl

theorem inForm_draftDrafted : DraftInForm platformDrafted draftDrafted := by
  have laws : platformDrafted.LowerLaws := lowerLaws_terminal
  have hdigest : ∀ digest, hex64Re digest = true →
      hex64Re (platformDrafted.stripLower digest) = true := by
    intro digest hdigest
    rwa [Platform.stripLower_hex64 laws ⟨digest, hdigest⟩]
  have hempty : hex64Re "44136fa355b3678a1146ad16f7e8649e94fb4fc21fe77e8310c060f61caaff8a" = true :=
    hex64Re_ofList (by decide) rfl
  have hprompt : hex64Re "e3b0c44298fc1c149afbf4c8996fb92427ae41e4649b934ca495991b7852b855" = true :=
    hex64Re_ofList (by decide) rfl
  have hpolicyHex : hex64Re (bareDigest
      "sha256:44136fa355b3678a1146ad16f7e8649e94fb4fc21fe77e8310c060f61caaff8a") = true := by
    have hbare : bareDigest
        "sha256:44136fa355b3678a1146ad16f7e8649e94fb4fc21fe77e8310c060f61caaff8a" =
          "44136fa355b3678a1146ad16f7e8649e94fb4fc21fe77e8310c060f61caaff8a" := bareDigest_ofList _
    rw [hbare]
    exact hempty
  have htime : Succeeds (platformDrafted.formatRfc3339Seconds "2026-01-01T00:00:00Z") :=
    ⟨_, formatRfc3339Seconds_terminal⟩
  have htoken : ∀ token : ScopeToken, scopeTokenRe (platformDrafted.stripLower token.val) = true := by
    intro token
    rw [Platform.stripLower_scopeToken laws]
    exact token.property
  have huuid : ∀ id : Uuid, uuidRe (platformDrafted.stripLower id.val) = true := by
    intro id
    rw [Platform.stripLower_uuid laws]
    exact id.property
  exact
    { tenantId := by decide
      authorization :=
        { principalDid := by decide
          actorSubject := by decide
          currency := by decide
          requestedSpendCents := ⟨15000, rfl, by decide⟩
          agent := ⟨by decide, hdigest _ hempty, hdigest _ hprompt, htoken ⟨"gpt", by decide⟩⟩
          decisionId := huuid ⟨"6ba7b810-9dad-11d1-80b4-00c04fd430c8", by decide⟩
          policy := ⟨by decide, hdigest _ hpolicyHex⟩
          authorizedAt := htime
          auditId := fun _ => huuid ⟨"3f2504e0-4f89-41d3-9a0c-0305e82c3301", by decide⟩ }
      intentId := huuid ⟨"550e8400-e29b-41d4-a716-446655440000", by decide⟩
      externalAttestations := nofun
      harborState := htoken ⟨"evidence_submitted", by decide⟩
      execution :=
        { toolCallId := by decide
          argumentsDigest := hdigest _ (hexDigests_drafted _)
          runId := huuid ⟨"7b5e2c1a-9d3f-4c8b-a6e1-2f4d6c8b0a13", by decide⟩
          toolName := htoken ⟨"travel.book_hotel", by decide⟩
          operation := htoken ⟨"travel.book_hotel", by decide⟩
          startedAt := htime
          completedAt := htime
          resultDigest := by
            rintro _ ⟨⟩ -
            exact hdigest _ (hexDigests_drafted _) }
      issuedAt := htime
      merchant := by
        rintro _ ⟨⟩
        exact ⟨by decide, by rintro _ ⟨⟩ -; exact htoken ⟨"hotel-1", by decide⟩⟩
      evidence := by
        rintro _ ⟨⟩
        exact ⟨hdigest _ hprompt, by decide, htoken ⟨"cost_and_completion", by decide⟩, nofun⟩
      receiptId := by
        have hintent : platformDrafted.stripLower draftDrafted.intentId = draftDrafted.intentId :=
          Platform.stripLower_uuid laws ⟨"550e8400-e29b-41d4-a716-446655440000", by decide⟩
        have hcall : pyStrip "call-1" = "call-1" := pyStrip_eq_self (forall_mem_of_all (by decide))
        have hid : platformDrafted.stripLower draftDrafted.receiptId = draftDrafted.receiptId :=
          Platform.stripLower_hex64 laws ⟨_, hexDigests_drafted _⟩
        rw [hintent, hid]
        exact congrArg (actionReceiptId platformDrafted draftDrafted.intentId) hcall.symm }

/-- What is composed for the booking, whatever function computes the digest. -/
theorem composeReceiptDraft_drafted (digest : AgentReceiptDraft → Except PyExc String) :
    ∃ context, receiptContext contextDrafted inputDrafted = some context ∧
      composeReceiptDraft
          { composing platformDrafted surroundingsDrafted with
            agentReceiptMessageDigestSha256Hex := digest }
          bindingDrafted contextDrafted context inputDrafted 5 =
        (do return { draftDrafted with messageDigestSha256Hex := ← digest draftDrafted }) := by
  refine ⟨_, rfl, ?_⟩
  with_unfolding_all rfl

theorem verifyAgentReceiptV1_signDraft_drafted :
    ∃ past draft,
      (buildReceiptDraft (composing platformDrafted surroundingsDrafted) bindingDrafted
        inputDrafted).Reaches past (.ret (some draft)) ∧
      ∃ receipt execution,
        verifyAgentReceiptV1 platformDrafted (draftMapping (signDraft pairDrafted draft)) {} =
            .ok receipt ∧
          receipt.messageDigestSha256Hex = draft.messageDigestSha256Hex ∧
          receipt.receiptId = draft.receiptId ∧ receipt.execution = some execution ∧
          execution.toolCallId.val = draft.execution.toolCallId ∧
          execution.argumentsDigestSha256Hex.val = draft.execution.argumentsDigestSha256Hex := by
  have laws : platformDrafted.LowerLaws := lowerLaws_terminal
  obtain ⟨normalized, hnormalizes⟩ := inForm_draftDrafted.normalizes laws hexDigests_drafted
    ⟨rfl, rfl, rfl, rfl, rfl, rfl, rfl⟩
  have hdigest : ∃ digest,
      agentReceiptMessageDigestSha256Hex platformDrafted (draftMapping draftDrafted) = .ok digest := by
    rw [agentReceiptMessageDigestSha256Hex, normalizeReceipt_eq_ok.mpr hnormalizes]
    exact ⟨_, rfl⟩
  obtain ⟨digest, hdigest⟩ := hdigest
  obtain ⟨context, hcontext, hcompose⟩ := composeReceiptDraft_drafted fun draft =>
    agentReceiptMessageDigestSha256Hex platformDrafted (draftMapping draft)
  obtain ⟨draft, hdraft⟩ : ∃ draft, (composeReceiptDraft
      (composing platformDrafted surroundingsDrafted) bindingDrafted contextDrafted context
      inputDrafted 5).toOption = some draft := by
    refine ⟨{ draftDrafted with messageDigestSha256Hex := digest }, ?_⟩
    dsimp only at hcompose
    rw [hdigest] at hcompose
    exact congrArg Except.toOption hcompose
  have hreaches : (buildReceiptDraft (composing platformDrafted surroundingsDrafted) bindingDrafted
      inputDrafted).Reaches [⟨.access .timeMs, .ok (5 : ℕ)⟩] (.ret (some draft)) := by
    rw [← hdraft, buildReceiptDraft]
    dsimp only [bindingDrafted]
    rw [hcontext]
    exact .answered (.start _)
  exact ⟨_, draft, hreaches,
    verifyAgentReceiptV1_signDraft laws hexDigests_drafted pairDrafted
      (by decide +kernel) hreaches⟩

end PaybondKit.Receipt
