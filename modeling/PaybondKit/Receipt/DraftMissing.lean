import PaybondKit.Foundation.Ending
import PaybondKit.Receipt.DraftForm
import PaybondKit.Receipt.Reported

/-!
# Executions without a draft

An execution whose binding, call and authorization have all that a receipt documents is still
without a draft when another of its fields does not normalize. First among these is the
amount: Harbor is asked for nothing when a call has none, and the receipt has no default.
-/

namespace PaybondKit.Receipt

open Agent Coroutine

/-! ## The executed call -/

section Consulted

variable (past : List (Exchange Val PyExc))

def registry? : Exchange Val PyExc → Option PaybondToolRegistry
  | ⟨.access .readRegistry, .ok registry⟩ => some registry
  | _ => none

def resolvedCents? : Exchange Val PyExc → Option (Option Int)
  | ⟨.host (.resolveSpendCents _ _), .ok cents⟩ => some cents
  | _ => none

def mapped? : Exchange Val PyExc → Option (List PyValue)
  | ⟨.host (.mapExternalAttestations _ _ _), .ok attestations⟩ => some attestations
  | _ => none

/-- The operation reads the registry, resolves an amount or maps attestations. -/
def Consults : Op → Prop
  | .access .readRegistry | .host (.resolveSpendCents _ _)
  | .host (.mapExternalAttestations _ _ _) => True
  | _ => False

/-- What an execution makes of its input and of the registry. -/
structure ExecutedCall where
  operation : String
  entry : PaybondSideEffectingToolEntry
  requestedSpendCents : Option Int
  externalAttestations : List PyValue

/-- The amount by the spend rule of the tool. -/
def ruledCents (registry : PaybondToolRegistry) (toolName : String) (arguments : PyValue) :
    Option Int :=
  match (registry.sideEffecting.get? toolName).bind (·.spendCents) with
  | none => none
  | some (.cents value) => some value
  | some (.jsonPath path tool) => (resolveSpendCentsFromJsonPath arguments path tool).toOption.join
  | some (.resolver _) => (past.filterMap resolvedCents?).head?.join

/-- The amount that the call names, or else that of the spend rule, for which the registry is
read once more. -/
def namedCents (input : ToolCallInput) : Option Int :=
  match input.requestedSpendCents with
  | some cents => some cents
  | none => do
      let registry ← (past.filterMap registry?)[1]?
      ruledCents past registry (pyStrip input.toolName) input.arguments

/-- The execution of a tool that the registry has as side-effecting. -/
def executedCall? (binding : PaybondRunBinding) (input : ToolCallInput) : Option ExecutedCall := do
  let registry ← (past.filterMap registry?).head?
  match registry.resolveTool (pyStrip input.toolName) (some binding.allowedTools) with
  | .sideEffecting _ operation entry =>
      some
        { operation := pyStrip ((truthyStr input.operation).getD operation)
          entry
          requestedSpendCents := boundBySandbox binding (namedCents past input)
          externalAttestations := (past.filterMap mapped?).head?.getD [] }
  | _ => none

end Consulted

/-! ## What is documented, and what else is needed -/

/-- The middleware's platform, with the verifier's receipt digests and letter case. The
surroundings decide which values have a digest. -/
def drafting (platform : Platform) (surroundings : Agent.Platform) : Agent.Platform :=
  { composing platform surroundings with
    valueDigestSha256Hex := surroundings.valueDigestSha256Hex }

structure DraftLaws (platform : Platform) (surroundings : Agent.Platform) : Prop where
  lower : platform.LowerLaws
  hexDigests : platform.HexDigests
  valueDigests : ∀ value digest, surroundings.valueDigestSha256Hex value = .ok digest →
    hex64Re digest = true
  times : ∀ ms, Succeeds (platform.formatRfc3339Seconds (surroundings.epochMsToRfc3339 ms))

section Conditions

variable (platform : Platform) (surroundings : Agent.Platform) (binding : PaybondRunBinding)
variable (input : ToolCallInput) (call : ExecutedCall) (authorization : AuthorizationReport)

/-- The agent context has all that a receipt names. -/
structure ContextInForm (context : PaybondRunAgentContext) : Prop where
  operatorDid : ∃ did, context.operatorDid = some did ∧ pyStrip did ≠ ""
  principalDid : ∃ did, context.principalDid = some did ∧ pyStrip did ≠ ""
  policyTemplateId : ∃ id, context.policyTemplateId = some id ∧ pyStrip id ≠ ""
  configHash : ∃ hash, context.configHashHex = some hash ∧
    hex64Re (platform.stripLower hash) = true
  promptHash : ∃ hash, context.promptHashHex = some hash ∧
    hex64Re (platform.stripLower hash) = true
  modelFamily : scopeTokenRe (platform.stripLower context.modelFamily) = true

/-- What the builder of the draft documents that it needs. -/
structure Documented : Prop where
  agentContext : ∃ context, binding.agentContext = some context ∧ ContextInForm platform context
  toolName : scopeTokenRe (platform.stripLower (pyStrip input.toolName)) = true
  operation : scopeTokenRe (platform.stripLower call.operation) = true
  vendorId : ∀ vendor, truthyStr input.vendorId = some vendor →
    scopeTokenRe (platform.stripLower vendor) = true
  currency : Policy.currencyRe
    (platform.stripLower (receiptCurrency platform input.currency)) = true
  runId : uuidRe (platform.stripLower binding.runId) = true
  intentId : uuidRe (platform.stripLower binding.intentId) = true
  policyDigest : ∃ digest, authorization.policyDigest = some digest ∧ digest ≠ ""
  auditId : uuidRe (platform.stripLower authorization.auditId) = true
  decisionId : ∃ id, authorization.decisionId = some id ∧ uuidRe (platform.stripLower id) = true
  arguments : Succeeds (surroundings.valueDigestSha256Hex input.arguments)

/-- The state in which Harbor has the intent, as a draft names it. -/
def harborState (evidence : PaybondInterceptEvidenceResult) : String :=
  ((truthyStr evidence.intentState).or (truthyStr evidence.sandboxLifecycleStatus)).getD
    "evidence_submitted"

/-- The sections on the merchant and the evidence normalize. -/
structure PayeeInForm (evidence : PaybondInterceptEvidenceResult) (payeeDid digest : String) :
    Prop where
  payeeDid : pyStrip payeeDid ≠ ""
  completionPresetId : scopeTokenRe (platform.stripLower call.entry.evidencePreset) = true
  payloadDigest : hex64Re (platform.stripLower digest) = true
  artifactsDigest : ∀ digest, truthyStr evidence.artifactsDigestSha256Hex = some digest →
    hex64Re (platform.stripLower digest) = true

/-- What else must hold for a draft. -/
structure Draftable (evidence : PaybondInterceptEvidenceResult) : Prop where
  requestedSpendCents : ∃ cents, call.requestedSpendCents = some cents ∧ 0 ≤ cents
  tenantId : pyStrip binding.tenantId ≠ ""
  agentSubject : ∀ subject, truthyStr input.agentSubject = some subject → pyStrip subject ≠ ""
  policyDigest : ∀ digest, authorization.policyDigest = some digest →
    hex64Re (platform.stripLower (bareDigest digest)) = true
  receiptId : actionReceiptId platform binding.intentId (pyStrip input.toolCallId) =
    actionReceiptId platform (platform.stripLower binding.intentId) (pyStrip input.toolCallId)
  harborState : scopeTokenRe (platform.stripLower (harborState evidence)) = true
  payee : ∀ payeeDid digest,
    truthyStr (binding.productionEvidence.map (·.payeeDid)) = some payeeDid →
    truthyStr evidence.payloadDigestSha256Hex = some digest →
    PayeeInForm platform call evidence payeeDid digest
  externalAttestations : ∀ attestation ∈ call.externalAttestations,
    Succeeds (normalizeExternalAttestation platform attestation)

/-- What the draft is composed of, in terms of the call. -/
structure Describes (evidence : PaybondInterceptEvidenceResult) (receipt : ReceiptInput) :
    Prop where
  toolName : receipt.toolName = pyStrip input.toolName
  toolCallId : receipt.toolCallId = pyStrip input.toolCallId
  operation : receipt.operation = call.operation
  arguments : receipt.arguments = input.arguments
  agentSubject : receipt.agentSubject = callSubject binding input
  requestedSpendCents : receipt.requestedSpendCents = call.requestedSpendCents
  currency : receipt.currency = input.currency
  vendorId : receipt.vendorId = input.vendorId
  entry : receipt.entry = call.entry
  auditId : receipt.auth.auditId = authorization.auditId
  decisionId : receipt.auth.decisionId = authorization.decisionId
  policyDigest : receipt.policyDigest = authorization.policyDigest
  evidence : receipt.evidence = evidence
  externalAttestations : receipt.externalAttestations = call.externalAttestations

end Conditions

/-! ## Composing -/

section Compose

variable {platform : Platform} {surroundings : Agent.Platform} {binding : PaybondRunBinding}
variable {input : ToolCallInput} {call : ExecutedCall} {authorization : AuthorizationReport}
variable {evidence : PaybondInterceptEvidenceResult} {receipt : ReceiptInput}

theorem succeeds_messageDigest (laws : DraftLaws platform surroundings)
    {draft : AgentReceiptDraft} (hconstants : DraftConstants draft) :
    Succeeds (agentReceiptMessageDigestSha256Hex platform (draftMapping draft)) ↔
      DraftInForm platform draft := by
  rw [← succeeds_normalizeReceipt laws.lower laws.hexDigests hconstants]
  refine (succeeds_bind_of fun _ => iff_true_intro ⟨_, rfl⟩).trans ?_
  rw [and_true]

theorem truthyStr_of_pyStrip_ne {text : String} (htext : pyStrip text ≠ "") :
    truthyStr (some text) = some text := by
  refine truthyStr_eq_some fun hempty => htext ?_
  rw [hempty]
  decide +kernel

theorem truthyStr_of_hex64 (laws : platform.LowerLaws) {text : String}
    (htext : hex64Re (platform.stripLower text) = true) : truthyStr (some text) = some text := by
  refine truthyStr_eq_some fun hempty => ?_
  rw [hempty, Platform.stripLower_eq_self laws (by simp)] at htext
  exact absurd htext (by decide)

theorem ne_empty_of_truthyStr {value : Option String} {text : String}
    (hvalue : truthyStr value = some text) : text ≠ "" := by
  simpa using (Option.filter_eq_some_iff.mp hvalue).2

/-- The context that the head of the builder reads. -/
structure ReadsContext (agentContext : PaybondRunAgentContext)
    (authorization : AuthorizationReport) (context : ReceiptContext) : Prop where
  operatorDid : agentContext.operatorDid = some context.operatorDid
  principalDid : agentContext.principalDid = some context.principalDid
  policyTemplateId : agentContext.policyTemplateId = some context.policyTemplateId
  configHash : agentContext.configHashHex = some context.configHashHex
  promptHash : agentContext.promptHashHex = some context.promptHashHex
  decisionId : authorization.decisionId = some context.decisionId
  policyDigest : authorization.policyDigest = some context.policyDigest

/-- The head of the builder finds what is documented. -/
theorem Documented.readsContext (laws : platform.LowerLaws)
    (hdocumented : Documented platform surroundings binding input call authorization)
    (hdescribes : Describes binding input call authorization evidence receipt)
    {agentContext : PaybondRunAgentContext} (hbound : binding.agentContext = some agentContext) :
    ∃ context, receiptContext agentContext receipt = some context ∧
      ReadsContext agentContext authorization context := by
  obtain ⟨_, hsame, hform⟩ := hdocumented.agentContext
  obtain rfl := Option.some.inj (hbound.symm.trans hsame)
  obtain ⟨operatorDid, hoperator, hoperatorForm⟩ := hform.operatorDid
  obtain ⟨principalDid, hprincipal, hprincipalForm⟩ := hform.principalDid
  obtain ⟨templateId, htemplate, htemplateForm⟩ := hform.policyTemplateId
  obtain ⟨configHash, hconfig, hconfigForm⟩ := hform.configHash
  obtain ⟨promptHash, hprompt, hpromptForm⟩ := hform.promptHash
  obtain ⟨decisionId, hdecision, -⟩ := hdocumented.decisionId
  obtain ⟨policyDigest, hpinned, hpinnedForm⟩ := hdocumented.policyDigest
  refine ⟨{ operatorDid, principalDid, policyTemplateId := templateId, configHashHex := configHash,
            promptHashHex := promptHash, decisionId, policyDigest }, ?_, hoperator, hprincipal,
    htemplate, hconfig, hprompt, hdecision, hpinned⟩
  simp only [receiptContext, hdescribes.decisionId, hdescribes.policyDigest, hoperator, hprincipal,
    htemplate, hconfig, hprompt, hdecision, hpinned, truthyStr_of_pyStrip_ne hoperatorForm,
    truthyStr_of_pyStrip_ne hprincipalForm, truthyStr_of_pyStrip_ne htemplateForm,
    truthyStr_of_hex64 laws hconfigForm, truthyStr_of_hex64 laws hpromptForm,
    truthyStr_eq_some hpinnedForm]
  rfl

/-- The sections on the merchant and the evidence are in form together. -/
theorem payeeInForm_iff (hdescribes : Describes binding input call authorization evidence receipt)
    (hvendor : ∀ vendor, truthyStr input.vendorId = some vendor →
      scopeTokenRe (platform.stripLower vendor) = true) :
    ((∀ merchant ∈ (receiptPayee binding receipt).map (·.1), MerchantInForm platform merchant) ∧
        ∀ proof ∈ (receiptPayee binding receipt).map (·.2), EvidenceInForm platform proof) ↔
      ∀ payeeDid digest,
        truthyStr (binding.productionEvidence.map (·.payeeDid)) = some payeeDid →
        truthyStr evidence.payloadDigestSha256Hex = some digest →
        PayeeInForm platform call evidence payeeDid digest := by
  unfold receiptPayee
  rw [hdescribes.evidence, hdescribes.vendorId, hdescribes.entry]
  cases truthyStr (binding.productionEvidence.map (·.payeeDid)) with
  | none => exact iff_of_true ⟨nofun, nofun⟩ nofun
  | some payeeDid =>
      cases truthyStr evidence.payloadDigestSha256Hex with
      | none => exact iff_of_true ⟨nofun, nofun⟩ nofun
      | some digest =>
          constructor
          · rintro ⟨hmerchant, hevidence⟩ _ _ ⟨⟩ ⟨⟩
            have hmerchant := hmerchant _ rfl
            have hevidence := hevidence _ rfl
            refine ⟨hmerchant.payeeDid, hevidence.completionPresetId, hevidence.payloadDigest, ?_⟩
            intro artifacts hartifacts
            exact hevidence.artifactsDigest artifacts hartifacts (ne_empty_of_truthyStr hartifacts)
          · intro hform
            obtain ⟨hpayee, hpreset, hpayload, hartifacts⟩ := hform payeeDid digest rfl rfl
            constructor
            · rintro _ ⟨⟩
              exact ⟨hpayee, fun vendor hsome _ => hvendor vendor hsome⟩
            · rintro _ ⟨⟩
              exact ⟨hpayload, hpayee, hpreset, fun artifacts hsome _ => hartifacts artifacts hsome⟩

/-- The actor is the subject of the call, or else the operator. -/
theorem actorSubject_eq (hdescribes : Describes binding input call authorization evidence receipt)
    {agentContext : PaybondRunAgentContext} {operatorDid : String}
    (hbound : binding.agentContext = some agentContext)
    (hoperator : agentContext.operatorDid = some operatorDid) :
    (truthyStr receipt.agentSubject).getD operatorDid =
      (truthyStr input.agentSubject).getD operatorDid := by
  rw [hdescribes.agentSubject, callSubject, hbound, Option.bind_some, hoperator]
  cases hsubject : truthyStr input.agentSubject with
  | some subject =>
      rw [Option.some_or, truthyStr_eq_some (ne_empty_of_truthyStr hsubject)]
  | none =>
      rw [Option.none_or]
      by_cases hempty : operatorDid = ""
      · rw [hempty]
        rfl
      · rw [truthyStr_eq_some hempty]
        rfl

theorem ContextInForm.reads {agentContext : PaybondRunAgentContext} {context : ReceiptContext}
    (hform : ContextInForm platform agentContext)
    (hreads : ReadsContext agentContext authorization context) :
    pyStrip context.operatorDid ≠ "" ∧ pyStrip context.principalDid ≠ "" ∧
      pyStrip context.policyTemplateId ≠ "" ∧
      hex64Re (platform.stripLower context.configHashHex) = true ∧
      hex64Re (platform.stripLower context.promptHashHex) = true := by
  obtain ⟨operatorDid, hoperator, hoperatorForm⟩ := hform.operatorDid
  obtain ⟨principalDid, hprincipal, hprincipalForm⟩ := hform.principalDid
  obtain ⟨templateId, htemplate, htemplateForm⟩ := hform.policyTemplateId
  obtain ⟨configHash, hconfig, hconfigForm⟩ := hform.configHash
  obtain ⟨promptHash, hprompt, hpromptForm⟩ := hform.promptHash
  obtain rfl := Option.some.inj (hoperator.symm.trans hreads.operatorDid)
  obtain rfl := Option.some.inj (hprincipal.symm.trans hreads.principalDid)
  obtain rfl := Option.some.inj (htemplate.symm.trans hreads.policyTemplateId)
  obtain rfl := Option.some.inj (hconfig.symm.trans hreads.configHash)
  obtain rfl := Option.some.inj (hprompt.symm.trans hreads.promptHash)
  exact ⟨hoperatorForm, hprincipalForm, htemplateForm, hconfigForm, hpromptForm⟩

/-- With all that is documented the builder composes a draft exactly when the rest is in form. -/
theorem succeeds_composeReceiptDraft_iff (laws : DraftLaws platform surroundings)
    (hdocumented : Documented platform surroundings binding input call authorization)
    (hdescribes : Describes binding input call authorization evidence receipt)
    (hcall : pyStrip input.toolCallId ≠ "")
    {agentContext : PaybondRunAgentContext} {context : ReceiptContext} {completedAtMs : ℕ}
    (hbound : binding.agentContext = some agentContext)
    (hreads : ReadsContext agentContext authorization context) :
    Succeeds (composeReceiptDraft (drafting platform surroundings) binding agentContext context
      receipt completedAtMs) ↔ Draftable platform binding input call authorization evidence := by
  obtain ⟨_, hsame, hform⟩ := hdocumented.agentContext
  obtain rfl := Option.some.inj (hbound.symm.trans hsame)
  obtain ⟨argumentsDigest, harguments⟩ := hdocumented.arguments
  have hvalue : (drafting platform surroundings).valueDigestSha256Hex receipt.arguments =
      .ok argumentsDigest := by
    rw [hdescribes.arguments]
    exact harguments
  have hlower : ∀ digest, hex64Re digest = true →
      hex64Re (platform.stripLower digest) = true := by
    intro digest hdigest
    rwa [Platform.stripLower_hex64 laws.lower ⟨digest, hdigest⟩]
  have hactionId : platform.stripLower (actionReceiptId platform binding.intentId
      (pyStrip input.toolCallId)) = actionReceiptId platform binding.intentId
        (pyStrip input.toolCallId) :=
    Platform.stripLower_hex64 laws.lower ⟨_, laws.hexDigests _⟩
  have hactor := actorSubject_eq hdescribes hbound hreads.operatorDid
  rw [composeReceiptDraft, hvalue, except_ok_bind]
  refine (succeeds_bind_of fun _ => iff_true_intro ⟨_, rfl⟩).trans ?_
  rw [and_true]
  refine (succeeds_messageDigest laws ⟨rfl, rfl, rfl, rfl, rfl, rfl, rfl⟩).trans ?_
  constructor
  · intro hdraft
    refine ⟨?_, hdraft.tenantId, ?_, ?_, ?_, ?_, ?_, ?_⟩
    · rw [← hdescribes.requestedSpendCents]
      exact hdraft.authorization.requestedSpendCents
    · intro subject hsubject
      have hnamed := hdraft.authorization.actorSubject
      dsimp only at hnamed
      rwa [hactor, hsubject] at hnamed
    · intro digest hdigest
      obtain rfl := Option.some.inj (hreads.policyDigest.symm.trans hdigest)
      exact hdraft.authorization.policy.contentDigest
    · have hid : platform.stripLower (actionReceiptId platform binding.intentId
          receipt.toolCallId) = actionReceiptId platform (platform.stripLower binding.intentId)
            (pyStrip receipt.toolCallId) := hdraft.receiptId
      rwa [hdescribes.toolCallId, pyStrip_pyStrip, hactionId] at hid
    · have hstate : scopeTokenRe (platform.stripLower (harborState receipt.evidence)) = true :=
        hdraft.harborState
      rwa [hdescribes.evidence] at hstate
    · exact (payeeInForm_iff hdescribes hdocumented.vendorId).mp ⟨hdraft.merchant, hdraft.evidence⟩
    · rw [← hdescribes.externalAttestations]
      exact hdraft.externalAttestations
  · intro hdraftable
    obtain ⟨hmerchant, hevidence⟩ :=
      (payeeInForm_iff hdescribes hdocumented.vendorId).mpr hdraftable.payee
    obtain ⟨hoperator, hprincipal, htemplate, hconfig, hprompt⟩ := hform.reads hreads
    have hsubject : pyStrip ((truthyStr receipt.agentSubject).getD context.operatorDid) ≠ "" := by
      rw [hactor]
      cases hnamed : truthyStr input.agentSubject with
      | none => exact hoperator
      | some subject => exact hdraftable.agentSubject subject hnamed
    have hresult : ∀ digest, ((drafting platform surroundings).valueDigestSha256Hex
        receipt.toolResult).toOption = some digest → hex64Re (platform.stripLower digest) = true :=
      fun digest hdigest => hlower _ (laws.valueDigests _ _ (except_mem_toOption.mp hdigest))
    exact
      { tenantId := hdraftable.tenantId
        authorization :=
          { principalDid := hprincipal
            actorSubject := hsubject
            currency := by
              have hcurrency := hdocumented.currency
              rw [← hdescribes.currency] at hcurrency
              exact hcurrency
            requestedSpendCents := by
              rw [hdescribes.requestedSpendCents]
              exact hdraftable.requestedSpendCents
            agent := ⟨hoperator, hconfig, hprompt, hform.modelFamily⟩
            decisionId := by
              obtain ⟨decisionId, hdecision, hid⟩ := hdocumented.decisionId
              obtain rfl := Option.some.inj (hdecision.symm.trans hreads.decisionId)
              exact hid
            policy := ⟨htemplate, hdraftable.policyDigest _ hreads.policyDigest⟩
            authorizedAt := laws.times _
            auditId := by
              intro _
              rw [hdescribes.auditId]
              exact hdocumented.auditId }
        intentId := hdocumented.intentId
        externalAttestations := by
          dsimp only
          rw [hdescribes.externalAttestations]
          exact hdraftable.externalAttestations
        harborState := by
          change scopeTokenRe (platform.stripLower (harborState receipt.evidence)) = true
          rw [hdescribes.evidence]
          exact hdraftable.harborState
        execution :=
          { toolCallId := by
              rw [hdescribes.toolCallId, pyStrip_pyStrip]
              exact hcall
            argumentsDigest := hlower _ (laws.valueDigests _ _ harguments)
            runId := hdocumented.runId
            toolName := by
              rw [hdescribes.toolName]
              exact hdocumented.toolName
            operation := by
              rw [hdescribes.operation]
              exact hdocumented.operation
            startedAt := laws.times _
            completedAt := laws.times _
            resultDigest := fun digest hdigest _ => hresult digest hdigest }
        issuedAt := laws.times _
        merchant := hmerchant
        evidence := hevidence
        receiptId := by
          change platform.stripLower (actionReceiptId platform binding.intentId
            receipt.toolCallId) = actionReceiptId platform (platform.stripLower binding.intentId)
              (pyStrip receipt.toolCallId)
          rw [hdescribes.toolCallId, pyStrip_pyStrip, hactionId]
          exact hdraftable.receiptId }

end Compose

/-! ## What an execution hands to the builder -/

section Returned

variable {binding : PaybondRunBinding} {past : List (Exchange Val PyExc)}

/-- Nothing in the dialogue decides about the amount. -/
structure Settled (past : List (Exchange Val PyExc)) : Prop where
  registries : past.filterMap registry? = []
  resolved : past.filterMap resolvedCents? = []

/-- Nothing in the dialogue decides about the call. -/
structure Quiet (past : List (Exchange Val PyExc)) : Prop extends Settled past where
  mapped : past.filterMap mapped? = []

theorem Settled.append {later : List (Exchange Val PyExc)} (hpast : Settled past)
    (hlater : Settled later) : Settled (past ++ later) where
  registries := by rw [List.filterMap_append, hpast.registries, hlater.registries, List.append_nil]
  resolved := by rw [List.filterMap_append, hpast.resolved, hlater.resolved, List.append_nil]

theorem Quiet.append {later : List (Exchange Val PyExc)} (hpast : Quiet past)
    (hlater : Quiet later) : Quiet (past ++ later) where
  toSettled := hpast.toSettled.append hlater.toSettled
  mapped := by rw [List.filterMap_append, hpast.mapped, hlater.mapped, List.append_nil]

theorem Quiet.of_ends {α : Type} {program : Routine α} {outcome : Except PyExc α}
    (havoids : program.Avoids Consults) (hends : program.Ends past outcome) : Quiet past := by
  refine ⟨⟨hends.filterMap_eq_nil havoids ?_, hends.filterMap_eq_nil havoids ?_⟩,
    hends.filterMap_eq_nil havoids ?_⟩
  · intro exchange hother
    unfold registry?
    split
    · exact absurd trivial hother
    · rfl
  · intro exchange hother
    unfold resolvedCents?
    split
    · exact absurd trivial hother
    · rfl
  · intro exchange hother
    unfold mapped?
    split
    · exact absurd trivial hother
    · rfl

theorem not_consults_of_handles {op : Op} (hop : Handles op) : ¬Consults op := by
  unfold Consults
  split
  all_goals first | exact hop.elim | exact id

theorem not_consults_of_obtains {op : Op} (hop : Obtains op) : ¬Consults op := by
  unfold Consults
  split
  all_goals first | exact hop.elim | exact id

theorem not_consults_of_submits {op : Op} (hop : Submits op) : ¬Consults op := by
  unfold Consults
  split
  all_goals first | exact hop.elim | exact id

/-- The attestations of the receipt are those that the mapper of the tool answered. -/
theorem mapped_of_returns {entry : PaybondSideEffectingToolEntry} {toolResult : PyValue}
    {ctx : PaybondToolCallContext} {attestations : List PyValue}
    (hends : (resolveToolExternalAttestations entry toolResult ctx).Ends past (.ok attestations)) :
    (past.filterMap mapped?).head?.getD [] = attestations ∧ Settled past := by
  unfold resolveToolExternalAttestations at hends
  split at hends
  · obtain ⟨rfl, hok⟩ := ends_ret.mp hends
    exact ⟨(Except.ok.inj hok).symm, rfl, rfl⟩
  · rcases returns_tryExcept.mp hends with hmapped | ⟨exception, before, after, rfl, hraised, hrest⟩
    · obtain rfl := ends_call.mp hmapped
      exact ⟨rfl, rfl, rfl⟩
    · obtain rfl := ends_call.mp hraised
      split at hrest
      · obtain ⟨rfl, hok⟩ := ends_ret.mp hrest
        exact ⟨(Except.ok.inj hok).symm, rfl, rfl⟩
      · obtain ⟨-, hok⟩ := ends_raise.mp hrest
        cases hok

/-- The amount by the spend rule is looked up in the registry that was read. -/
theorem ruled_of_returns {registry : PaybondToolRegistry} {toolName : String} {arguments : PyValue}
    {cents : Option Int}
    (hends : (resolveSpendCents registry toolName arguments).Ends past (.ok cents)) :
    past.filterMap mapped? = [] ∧ past.filterMap registry? = [] ∧
      ∀ before after, before.filterMap resolvedCents? = [] → Settled after →
        ruledCents (before ++ (past ++ after)) registry toolName arguments = cents := by
  unfold resolveSpendCents at hends
  split at hends
  next hrule =>
    obtain ⟨rfl, hok⟩ := ends_ret.mp hends
    refine ⟨rfl, rfl, fun _ _ _ _ => ?_⟩
    rw [ruledCents, hrule]
    exact (Except.ok.inj hok).symm
  next value hrule =>
    obtain ⟨rfl, hok⟩ := ends_ret.mp hends
    refine ⟨rfl, rfl, fun _ _ _ _ => ?_⟩
    rw [ruledCents, hrule]
    exact (Except.ok.inj hok).symm
  next path tool hrule =>
    obtain ⟨rfl, hok⟩ := ends_ofExcept.mp hends
    refine ⟨rfl, rfl, fun _ _ _ _ => ?_⟩
    rw [ruledCents, hrule]
    dsimp only
    rw [← hok]
    rfl
  next callback hrule =>
    obtain rfl := ends_call.mp hends
    refine ⟨rfl, rfl, fun before after hbefore hafter => ?_⟩
    rw [ruledCents, hrule]
    dsimp only
    rw [List.filterMap_append, hbefore, List.nil_append, List.filterMap_append, hafter.resolved]
    rfl

/-- A resolved call asks for the amount that the call names or the spend rule gives. -/
theorem resolved_of_returns {input : ToolCallInput} {toolCallId operation : String}
    {entry : PaybondSideEffectingToolEntry} {resolved : ResolvedCall}
    (hends : (resolveSideEffectingCall binding (pyStrip input.toolName) toolCallId input entry
      operation).Ends past (.ok resolved)) :
    ∃ cents, resolved =
        { operation := pyStrip ((truthyStr input.operation).getD operation)
          requestedSpendCents := boundBySandbox binding cents
          entry
          authKwargs := buildAuthKwargs binding (pyStrip input.toolName) toolCallId input
            (pyStrip ((truthyStr input.operation).getD operation))
            (boundBySandbox binding cents) } ∧
      past.filterMap mapped? = [] ∧
      ∀ before after registry, before.filterMap registry? = [registry] →
        before.filterMap resolvedCents? = [] → Settled after →
        namedCents (before ++ (past ++ after)) input = cents := by
  obtain ⟨_, checked, resolving, rfl, hallowed, hresolving⟩ := returns_bind.mp hends
  obtain rfl : checked = [] := by
    unfold assertOperationAllowed at hallowed
    split at hallowed
    · exact (ends_ret.mp hallowed).1
    · exact (ends_raise.mp hallowed).1
  rw [List.nil_append]
  unfold namedCents
  cases hnamed : input.requestedSpendCents with
  | some cents =>
      rw [hnamed] at hresolving
      obtain ⟨rfl, hok⟩ := ends_ret.mp hresolving
      exact ⟨some cents, Except.ok.inj hok, rfl, fun _ _ _ _ _ _ => rfl⟩
  | none =>
      rw [hnamed] at hresolving
      obtain ⟨registry, read, ruling, rfl, hread, hruling⟩ := returns_bind.mp hresolving
      obtain rfl := ends_call.mp hread
      obtain ⟨cents, ruled, returned, rfl, hruled, hreturned⟩ := returns_bind.mp hruling
      obtain ⟨rfl, hok⟩ := ends_ret.mp hreturned
      obtain ⟨hmapped, hregistries, hcents⟩ := ruled_of_returns hruled
      rw [List.append_nil]
      refine ⟨cents, Except.ok.inj hok, hmapped, ?_⟩
      intro before after first hfirst hearlier hafter
      let read : Exchange Val PyExc := ⟨.access .readRegistry, .ok registry⟩
      have hread : (before ++ ([read] ++ ruled ++ after)).filterMap registry? =
          [first, registry] := by
        simp only [List.filterMap_append, hfirst, hregistries, hafter.registries]
        rfl
      have hunresolved : (before ++ [read]).filterMap resolvedCents? = [] := by
        rw [List.filterMap_append, hearlier]
        rfl
      have hsplit : before ++ ([read] ++ ruled ++ after) =
          (before ++ [read]) ++ (ruled ++ after) := by
        simp only [List.append_assoc]
      dsimp only
      rw [hread, hsplit]
      exact hcents _ after hunresolved hafter

section Platform

variable {platform : Agent.Platform} {input : ToolCallInput}
variable {result : PaybondInterceptWrapExecuteResult} {authorization : AuthorizationReport}

/-- The report of an execution carries what the builder made of it. -/
theorem reported_of_returns {toolName toolCallId : String} {resolved : ResolvedCall}
    {authorized : AuthorizedCall} {startedAtMs : ℕ} {toolResult : PyValue}
    (hends : (reportExecution platform binding toolName toolCallId input resolved authorized
      startedAtMs toolResult).Ends past (.ok result)) :
    ∃ attestations evidence drafting, result.evidence = some evidence ∧
      result.authorization = some
        { auditId := authorized.auth.auditId
          decisionId := authorized.auth.decisionId
          policyDigest := authorized.policyDigest } ∧
      (past.filterMap mapped?).head?.getD [] = attestations ∧ Settled past ∧
      (buildReceiptDraft platform binding
        { toolName, toolCallId
          operation := resolved.operation
          arguments := input.arguments
          agentSubject := resolved.authKwargs.agentSubject
          requestedSpendCents := resolved.requestedSpendCents
          currency := resolved.authKwargs.currency
          vendorId := resolved.authKwargs.vendorId
          entry := resolved.entry
          auth := authorized.auth
          authorizedAtMs := authorized.authorizedAtMs
          policyDigest := authorized.policyDigest
          executeStartedAtMs := startedAtMs
          toolResult, evidence
          externalAttestations := attestations }).Ends drafting (.ok result.receiptDraft) := by
  obtain ⟨attestations, mapping, rest, rfl, hmapping, hrest⟩ := returns_bind.mp hends
  obtain ⟨evidence, submitting, rest, rfl, hsubmitting, hrest⟩ := returns_bind.mp hrest
  obtain ⟨_, tracing, rest, rfl, htracing, hrest⟩ := returns_bind.mp hrest
  obtain ⟨receiptDraft, drafting, rest, rfl, hdrafting, hrest⟩ := returns_bind.mp hrest
  obtain ⟨rfl, hok⟩ := ends_ret.mp hrest
  obtain rfl := Except.ok.inj hok
  obtain ⟨hattestations, hsettled⟩ := mapped_of_returns hmapping
  have hquiet : Quiet (submitting ++ (tracing ++ drafting)) :=
    (Quiet.of_ends (avoids_submitAutoEvidence id fun _ =>
        avoids_submitEvidence fun _ => not_consults_of_submits) hsubmitting).append
      ((Quiet.of_ends (avoids_call id) htracing).append
        (Quiet.of_ends (avoids_buildReceiptDraft id) hdrafting))
  rw [List.append_nil]
  refine ⟨attestations, evidence, drafting, rfl, rfl, ?_, hsettled.append hquiet.toSettled,
    hdrafting⟩
  rw [List.filterMap_append, hquiet.mapped, List.append_nil, hattestations]

/-- From the resolved entry on, the builder is handed what describes the call. -/
theorem describes_of_wrapSideEffecting {entry : PaybondSideEffectingToolEntry} {operation : String}
    {pinnedDigest : Option String}
    (hends : (wrapSideEffecting platform binding (pyStrip input.toolName)
      (pyStrip input.toolCallId) input entry operation pinnedDigest).Ends past (.ok result))
    (hauthorization : result.authorization = some authorization) :
    ∃ cents evidence receipt drafting, result.evidence = some evidence ∧
      Describes binding input
        { operation := pyStrip ((truthyStr input.operation).getD operation)
          entry
          requestedSpendCents := boundBySandbox binding cents
          externalAttestations := (past.filterMap mapped?).head?.getD [] }
        authorization evidence receipt ∧
      (buildReceiptDraft platform binding receipt).Ends drafting (.ok result.receiptDraft) ∧
      ∀ before after registry, before.filterMap registry? = [registry] →
        before.filterMap resolvedCents? = [] → Settled after →
        namedCents (before ++ (past ++ after)) input = cents := by
  obtain ⟨resolved, resolving, rest, rfl, hresolving, hrest⟩ := returns_bind.mp hends
  obtain ⟨_, tracing, rest, rfl, htracing, hrest⟩ := returns_bind.mp hrest
  obtain ⟨authorized, authorizing, rest, rfl, hauthorizing, hrest⟩ := returns_bind.mp hrest
  obtain ⟨startedAt, starting, rest, rfl, hstarting, hrest⟩ := returns_bind.mp hrest
  obtain ⟨startedAtMs, timing, rest, rfl, htiming, hrest⟩ := returns_bind.mp hrest
  obtain ⟨toolResult, executing, reporting, rfl, hexecuting, hreporting⟩ := returns_bind.mp hrest
  obtain ⟨cents, rfl, hmapped, hcents⟩ := resolved_of_returns hresolving
  obtain ⟨attestations, evidence, drafting, hevidence, hreported, hattestations, hsettled,
    hdrafting⟩ := reported_of_returns hreporting
  obtain rfl := Option.some.inj (hreported.symm.trans hauthorization)
  have hquiet : Quiet (tracing ++ (authorizing ++ (starting ++ (timing ++ executing)))) :=
    (Quiet.of_ends (avoids_call id) htracing).append
      ((Quiet.of_ends (avoids_obtainAuthorization fun _ => not_consults_of_obtains)
        hauthorizing).append
        ((Quiet.of_ends (avoids_call id) hstarting).append
          ((Quiet.of_ends (avoids_call id) htiming).append
            (Quiet.of_ends (avoids_executeAndFinalize fun _ => not_consults_of_handles)
              hexecuting))))
  have hsplit : resolving ++ (tracing ++ (authorizing ++ (starting ++ (timing ++
      (executing ++ reporting))))) = resolving ++
        ((tracing ++ (authorizing ++ (starting ++ (timing ++ executing)))) ++ reporting) := by
    simp only [List.append_assoc]
  have hrest : (resolving ++ ((tracing ++ (authorizing ++ (starting ++ (timing ++ executing)))) ++
      reporting)).filterMap mapped? = reporting.filterMap mapped? := by
    rw [List.filterMap_append, hmapped, List.filterMap_append, hquiet.mapped]
    rfl
  rw [hsplit, hrest, hattestations]
  refine ⟨cents, evidence, _, drafting, hevidence, ?_, hdrafting, ?_⟩
  · exact ⟨rfl, rfl, rfl, rfl, rfl, rfl, rfl, rfl, rfl, rfl, rfl, rfl, rfl, rfl⟩
  · intro before after registry hregistry hbefore hafter
    rw [List.append_assoc resolving]
    exact hcents before _ registry hregistry hbefore
      ((hquiet.toSettled.append hsettled).append hafter)

/-- An execution under an authorization hands the builder what describes the call. -/
theorem describes_of_returns
    (hends : (wrapExecute platform binding input).Ends past (.ok result))
    (hauthorization : result.authorization = some authorization) :
    ∃ call evidence receipt drafting, executedCall? past binding input = some call ∧
      pyStrip input.toolCallId ≠ "" ∧ result.evidence = some evidence ∧
      Describes binding input call authorization evidence receipt ∧
      (buildReceiptDraft platform binding receipt).Ends drafting (.ok result.receiptDraft) := by
  obtain ⟨_, required, rest, rfl, hrequired, hrest⟩ := returns_bind.mp hends
  obtain ⟨hcall, rfl⟩ : pyStrip input.toolCallId ≠ "" ∧ required = [] := by
    unfold requireToolCall at hrequired
    split at hrequired
    · cases (ends_raise.mp hrequired).2
    · split at hrequired
      next => cases (ends_raise.mp hrequired).2
      next hcall => exact ⟨hcall, (ends_ret.mp hrequired).1⟩
  obtain ⟨pinnedDigest, beginning, rest, rfl, hbeginning, hrest⟩ := returns_bind.mp hrest
  obtain ⟨body, ending, rfl, hbody, hending⟩ := returns_tryFinally.mp hrest
  obtain ⟨registry, reading, running, rfl, hreading, hrunning⟩ := returns_bind.mp hbody
  obtain rfl := ends_call.mp hbeginning
  obtain rfl := ends_call.mp hending
  obtain rfl := ends_call.mp hreading
  split at hrunning
  next =>
    obtain ⟨toolResult, awaiting, rest, rfl, -, hreturned⟩ := returns_bind.mp hrunning
    obtain ⟨-, hok⟩ := ends_ret.mp hreturned
    obtain rfl := Except.ok.inj hok
    cases hauthorization
  next => cases (ends_raise.mp hrunning).2
  next toolName operation entry htool =>
    obtain ⟨cents, evidence, receipt, drafting, hevidence, hdescribes, hdrafting, hcents⟩ :=
      describes_of_wrapSideEffecting hrunning hauthorization
    let begun : Exchange Val PyExc := ⟨.access .beginInFlight, .ok pinnedDigest⟩
    let read : Exchange Val PyExc := ⟨.access .readRegistry, .ok registry⟩
    let ended : Exchange Val PyExc := ⟨.access .endInFlight, .ok ()⟩
    have hsplit : [] ++ ([begun] ++ ([read] ++ running ++ [ended])) =
        [begun, read] ++ (running ++ [ended]) := by
      simp only [List.nil_append, List.cons_append]
    have hfirst : (([begun, read] ++ (running ++ [ended])).filterMap registry?).head? =
        some registry := rfl
    have hamount := hcents [begun, read] [ended] registry rfl rfl ⟨rfl, rfl⟩
    have hmapped : ([begun, read] ++ (running ++ [ended])).filterMap mapped? =
        running.filterMap mapped? := by
      rw [List.filterMap_append, List.filterMap_append]
      exact List.append_nil _
    refine ⟨_, evidence, receipt, drafting, ?_, hcall, hevidence, hdescribes, hdrafting⟩
    rw [hsplit, executedCall?, hamount, hmapped, hfirst, Option.bind_eq_bind, Option.bind_some,
      htool]

end Platform

end Returned

/-! ## When an execution has a draft -/

section Missing

variable {platform : Platform} {surroundings : Agent.Platform} {binding : PaybondRunBinding}
variable {input : ToolCallInput} {call : ExecutedCall} {authorization : AuthorizationReport}
variable {evidence : PaybondInterceptEvidenceResult} {receipt : ReceiptInput}
variable {result : PaybondInterceptWrapExecuteResult} {past : List (Exchange Val PyExc)}

/-- The builder returns a draft when its composition does not raise. -/
theorem isSome_buildReceiptDraft_iff (laws : DraftLaws platform surroundings)
    (hdocumented : Documented platform surroundings binding input call authorization)
    (hdescribes : Describes binding input call authorization evidence receipt)
    (hcall : pyStrip input.toolCallId ≠ "") {receiptDraft : Option AgentReceiptDraft}
    (hends : (buildReceiptDraft (drafting platform surroundings) binding receipt).Ends past
      (.ok receiptDraft)) :
    receiptDraft.isSome = true ↔ Draftable platform binding input call authorization evidence := by
  obtain ⟨agentContext, hbound, -⟩ := hdocumented.agentContext
  obtain ⟨context, hcontext, hreads⟩ := hdocumented.readsContext laws.lower hdescribes hbound
  unfold buildReceiptDraft at hends
  rw [hbound] at hends
  dsimp only at hends
  rw [hcontext] at hends
  obtain ⟨completedAtMs, _, _, -, -, hreturned⟩ := returns_bind.mp hends
  obtain ⟨-, hok⟩ := ends_ret.mp hreturned
  obtain rfl := Except.ok.inj hok
  have hcomposes := @succeeds_composeReceiptDraft_iff _ _ _ _ _ _ _ _ laws hdocumented hdescribes
    hcall _ _ completedAtMs hbound hreads
  rw [← hcomposes, Option.isSome_iff_exists]
  exact exists_congr fun _ => except_mem_toOption

/-- Every execution of a side-effecting tool for which all is there that is documented has a
draft exactly when the call has an amount that is not negative, and the tenant, the subject,
the digest of the policy, the intent, the state at Harbor, the payee and the attestations are
in form. -/
theorem isSome_receiptDraft_iff (laws : DraftLaws platform surroundings)
    (hreturns : (wrapExecute (drafting platform surroundings) binding input).Reaches past
      (.ret result))
    (hauthorization : result.authorization = some authorization) :
    ∃ call evidence, executedCall? past binding input = some call ∧
      result.evidence = some evidence ∧
      (Documented platform surroundings binding input call authorization →
        (result.receiptDraft.isSome = true ↔
          Draftable platform binding input call authorization evidence)) := by
  have hends := ends_ok_iff_reaches.mpr hreturns
  obtain ⟨call, evidence, receipt, _, hcall, hid, hevidence, hdescribes, hdrafting⟩ :=
    describes_of_returns hends hauthorization
  exact ⟨call, evidence, hcall, hevidence, fun hdocumented =>
    isSome_buildReceiptDraft_iff laws hdocumented hdescribes hid hdrafting⟩

end Missing

/-! ## A booking without an amount -/

/-- The registry has the hotel booking without a spend rule. -/
def answersBooked : (op : Op) → Except PyExc (Val op)
  | .access access => .ok (access.run 0 (.bind registryBooked (some snapshotBooked))).1
  | .host call => acceptingHost call

def surroundingsBooked : Agent.Platform := composing platformDrafted surroundingsDrafted

theorem draftLaws_booked : DraftLaws platformDrafted surroundingsBooked where
  lower := lowerLaws_terminal
  hexDigests := hexDigests_drafted
  valueDigests := by
    rintro value _ ⟨⟩
    exact hexDigests_drafted _
  times _ := ⟨_, formatRfc3339Seconds_terminal⟩

/-- The booking for the given amount, if any. -/
def bookFor (cents : Option Int) : ToolCallInput :=
  { bookFrom "hotel-1" with requestedSpendCents := cents }

def bookingDialogue (cents : Option Int) :
    Option (List (Exchange Val PyExc) × Except PyExc PaybondInterceptWrapExecuteResult) :=
  (wrapExecute (drafting platformDrafted surroundingsBooked) bindingDrafted
    (bookFor cents)).dialogue answersBooked

def authorizationBooked : AuthorizationReport where
  auditId := inputDrafted.auth.auditId
  decisionId := inputDrafted.auth.decisionId
  policyDigest := inputDrafted.policyDigest

/-- The booking is executed under Harbor's authorization. -/
def Books (cents : Option Int) : Prop :=
  ((bookingDialogue cents).any fun (past, outcome) =>
    ((executedCall? past bindingDrafted (bookFor cents)).map fun call =>
        (call.operation, call.requestedSpendCents)) = some ("travel.book_hotel", cents) ∧
      (outcome.toOption.any fun result => result.authorization = some authorizationBooked)) = true

theorem documented_booked {cents : Option Int} {call : ExecutedCall}
    (hoperation : call.operation = "travel.book_hotel") :
    Documented platformDrafted surroundingsBooked bindingDrafted (bookFor cents) call
      authorizationBooked where
  agentContext := ⟨contextDrafted, rfl,
    { operatorDid := ⟨_, rfl, by decide +kernel⟩
      principalDid := ⟨_, rfl, by decide +kernel⟩
      policyTemplateId := ⟨_, rfl, by decide +kernel⟩
      configHash := ⟨_, rfl, by decide +kernel⟩
      promptHash := ⟨_, rfl, by decide +kernel⟩
      modelFamily := by decide +kernel }⟩
  toolName := by
    change scopeTokenRe (platformDrafted.stripLower (pyStrip "travel.book_hotel")) = true
    decide +kernel
  operation := by
    rw [hoperation]
    decide +kernel
  vendorId := by
    rintro vendor ⟨⟩
    decide +kernel
  currency := by
    change Policy.currencyRe
      (platformDrafted.stripLower (receiptCurrency platformDrafted none)) = true
    decide +kernel
  runId := by decide +kernel
  intentId := by decide +kernel
  policyDigest := ⟨_, rfl, by decide⟩
  auditId := by decide +kernel
  decisionId := ⟨_, rfl, by decide +kernel⟩
  arguments := ⟨_, rfl⟩

theorem exists_of_books {cents : Option Int} (hbooks : Books cents) :
    ∃ past result call,
      (wrapExecute (drafting platformDrafted surroundingsBooked) bindingDrafted
        (bookFor cents)).Reaches past (.ret result) ∧
      result.authorization = some authorizationBooked ∧
      executedCall? past bindingDrafted (bookFor cents) = some call ∧
      Documented platformDrafted surroundingsBooked bindingDrafted (bookFor cents) call
        authorizationBooked ∧
      call.requestedSpendCents = cents := by
  obtain ⟨⟨past, outcome⟩, hdialogue, hpast⟩ := (Option.any_eq_true _ _).mp hbooks
  obtain ⟨hoperation, houtcome⟩ := of_decide_eq_true hpast
  obtain ⟨call, hcall, hasked⟩ := Option.map_eq_some_iff.mp hoperation
  obtain ⟨hoperation, hcents⟩ := Prod.mk.inj hasked
  obtain ⟨result, hresult, hbooked⟩ := (Option.any_eq_true _ _).mp houtcome
  have hauthorization := of_decide_eq_true hbooked
  obtain rfl := except_mem_toOption.mp hresult
  exact ⟨past, result, call, ends_ok_iff_reaches.mp (ends_of_dialogue hdialogue), hauthorization,
    hcall, documented_booked hoperation, hcents⟩

/-- The booking with an amount. -/
theorem isSome_receiptDraft_iff_named :
    ∃ past result, (wrapExecute (drafting platformDrafted surroundingsBooked) bindingDrafted
        (bookFor (some 15000))).Reaches past (.ret result) ∧
      ∃ call evidence, executedCall? past bindingDrafted (bookFor (some 15000)) = some call ∧
        result.evidence = some evidence ∧
        (Documented platformDrafted surroundingsBooked bindingDrafted (bookFor (some 15000)) call
            authorizationBooked →
          (result.receiptDraft.isSome = true ↔
            Draftable platformDrafted bindingDrafted (bookFor (some 15000)) call
              authorizationBooked evidence)) := by
  have hbooks : Books (some 15000) := by
    unfold Books
    decide +kernel
  obtain ⟨past, result, call, hreaches, hauthorization, -⟩ := exists_of_books hbooks
  exact ⟨past, result, hreaches, isSome_receiptDraft_iff draftLaws_booked hreaches hauthorization⟩

/-- Harbor authorizes the booking without an amount, and nothing documents that its draft is
missing. -/
theorem receiptDraft_missing_unnamed :
    ∃ past result call,
      (wrapExecute (drafting platformDrafted surroundingsBooked) bindingDrafted
        (bookFor none)).Reaches past (.ret result) ∧
      result.authorization = some authorizationBooked ∧
      executedCall? past bindingDrafted (bookFor none) = some call ∧
      Documented platformDrafted surroundingsBooked bindingDrafted (bookFor none) call
        authorizationBooked ∧
      call.requestedSpendCents = none ∧ result.receiptDraft = none := by
  have hbooks : Books none := by
    unfold Books
    decide +kernel
  obtain ⟨past, result, call, hreaches, hauthorization, hcall, hdocumented, hcents⟩ :=
    exists_of_books hbooks
  refine ⟨past, result, call, hreaches, hauthorization, hcall, hdocumented, hcents, ?_⟩
  obtain ⟨described, evidence, receipt, _, hsame, hid, -, hdescribes, hdrafting⟩ :=
    describes_of_returns (ends_ok_iff_reaches.mpr hreaches) hauthorization
  obtain rfl := Option.some.inj (hcall.symm.trans hsame)
  have hdraftable := isSome_buildReceiptDraft_iff draftLaws_booked hdocumented hdescribes hid
    hdrafting
  rw [← Option.not_isSome_iff_eq_none, hdraftable]
  rintro ⟨⟨cents, hsome, -⟩, -⟩
  cases hcents.symm.trans hsome

end PaybondKit.Receipt
