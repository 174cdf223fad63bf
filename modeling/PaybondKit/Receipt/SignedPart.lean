import PaybondKit.Receipt.ReadBack

/-!
# The signed part of an agent receipt

What the canonical bytes determine, section by section: everything but the signing key,
the signature and the operator's attestation, where a blank text or a zero counts as a
missing one. Two accepted receipts with one digest have one signed part.
-/

namespace PaybondKit.Receipt

open Agent (PyExc)

/-- The agent but for a blank instance and a zero epoch. -/
def AgentSection.signedPart (agent : AgentSection) : AgentSection :=
  { agent with
    modelInstanceId := dropBlank agent.modelInstanceId
    deploymentEpoch := dropZero agent.deploymentEpoch }

def PolicySection.signedPart (policy : PolicySection) : PolicySection :=
  { policy with
    versionSeq := dropZero policy.versionSeq
    spendPolicyVersion := dropZero policy.spendPolicyVersion }

def AuthorizationSection.signedPart (authorization : AuthorizationSection) :
    AuthorizationSection :=
  { authorization with
    agent := authorization.agent.signedPart
    policy := authorization.policy.signedPart }

def ExecutionSection.signedPart (execution : ExecutionSection) : ExecutionSection :=
  { execution with durationMs := execution.durationMs.filter (·.val ≠ 0) }

def MerchantSection.signedPart (merchant : MerchantSection) : MerchantSection :=
  { merchant with vendorRefId := dropBlank merchant.vendorRefId }

def PaymentSection.signedPart (payment : PaymentSection) : PaymentSection :=
  { payment with fundingReference := dropBlank payment.fundingReference }

/-- The receipt but for what is not signed. -/
def AgentReceipt.signedPart (receipt : AgentReceipt) : AgentReceipt :=
  { receipt with
    authorization := receipt.authorization.signedPart
    execution := receipt.execution.map ExecutionSection.signedPart
    merchant := receipt.merchant.map MerchantSection.signedPart
    payment := receipt.payment.map PaymentSection.signedPart
    signingPublicKeyEd25519Hex := ""
    ed25519SignatureHex := ""
    operatorAttestation := none }

/-! ## Values -/

section Injective

variable {p : String → Prop} {q : Int → Prop} {floatText : PyFloat → JsonNumber}

theorem jsonInt_inj {n m : Int} : jsonInt n = jsonInt m ↔ n = m := by
  constructor
  · intro hnumber
    exact JsonNumber.ofInt_injective (congrArg JsonNumber.text (Json.number.inj hnumber))
  · rintro rfl
    rfl

theorem map_jsonInt_inj {n m : Option Int} : n.map jsonInt = m.map jsonInt ↔ n = m :=
  Option.map_inj_right fun _ _ => jsonInt_inj.mp

theorem map_jsonInt_val_inj {n m : Option { n : Int // q n }} :
    (n.map fun n => jsonInt n.val) = (m.map fun n => jsonInt n.val) ↔ n = m :=
  Option.map_inj_right fun _ _ hnumber => Subtype.ext (jsonInt_inj.mp hnumber)

theorem map_string_inj {text text' : Option { text : String // p text }} :
    (text.map fun text => Json.string text.val) = (text'.map fun text => Json.string text.val) ↔
      text = text' :=
  Option.map_inj_right fun _ _ hstring => Subtype.ext (Json.string.inj hstring)

theorem canonicalTokens_inj {tokens tokens' : TokenSet} :
    canonicalTokens tokens = canonicalTokens tokens' ↔ tokens = tokens' := by
  have htexts : Function.Injective
      (List.map fun token : ScopeToken => Json.string token.val) :=
    List.map_injective_iff.mpr fun _ _ hstring => Subtype.ext (Json.string.inj hstring)
  constructor
  · intro hcanonical
    unfold canonicalTokens at hcanonical
    refine Subtype.ext ?_
    split at hcanonical <;> split at hcanonical
    next hnil hnil' => rw [hnil, hnil']
    next => cases hcanonical
    next => cases hcanonical
    next => exact htexts (Json.array.inj (Option.some.inj hcanonical))
  · rintro rfl
    rfl

theorem map_bool_inj {value value' : Option Bool} :
    value.map Json.bool = value'.map Json.bool ↔ value = value' :=
  Option.map_inj_right fun _ _ hbool => Json.bool.inj hbool

theorem ExecutionOutcome.text_inj {outcome outcome' : ExecutionOutcome} :
    outcome.text = outcome'.text ↔ outcome = outcome' := by
  cases outcome <;> cases outcome' <;> simp [text]

theorem map_spendReservationOutcome_inj {outcome outcome' : Option SpendReservationOutcome} :
    (outcome.map fun outcome => Json.string outcome.text) =
        (outcome'.map fun outcome => Json.string outcome.text) ↔ outcome = outcome' := by
  refine Option.map_inj_right fun first second hstring => ?_
  have htext := Json.string.inj hstring
  cases first <;> cases second <;> simp_all [SpendReservationOutcome.text]

theorem map_settlementOutcome_inj {outcome outcome' : Option SettlementOutcome} :
    (outcome.map fun outcome => Json.string outcome.text) =
        (outcome'.map fun outcome => Json.string outcome.text) ↔ outcome = outcome' := by
  refine Option.map_inj_right fun first second hstring => ?_
  have htext := Json.string.inj hstring
  cases first <;> cases second <;> simp_all [SettlementOutcome.text]

theorem ReceiptScope.text_inj {scope scope' : ReceiptScope} :
    scope.text = scope'.text ↔ scope = scope' := by
  cases scope <;> cases scope' <;> simp [text]

/-- The forms of a settlement receipt identifier. -/
theorem SettlementReceiptId.toPy_cases (id : SettlementReceiptId) :
    (∃ text, id.toPy = .str text) ∨
      id.toPy ∈ [PyValue.none, .bool false, .int 0, .float (.finite 0), .list [], .dict []] := by
  cases id with
  | reference text => exact .inl ⟨text.val, rfl⟩
  | falsy value hfalsy =>
      change (∃ text, value = .str text) ∨ value ∈ _
      cases value with
      | str text => exact .inl ⟨text, rfl⟩
      | none => simp
      | bool value => simp_all [PyValue.truthy]
      | int value => simp_all [PyValue.truthy]
      | float value => simp_all [PyValue.truthy]
      | list items => simp_all [PyValue.truthy]
      | dict items => simp_all [PyValue.truthy]

theorem SettlementReceiptId.toPy_injective {id id' : SettlementReceiptId}
    (hvalue : id.toPy = id'.toPy) : id = id' := by
  have htruthy : ∀ text : Matching settlementReceiptIdRe, (PyValue.str text.val).truthy = true :=
    fun text => decide_eq_true (text.ne_empty (by decide))
  cases id with
  | falsy value hfalsy =>
      cases id' with
      | falsy value' hfalsy' =>
          cases hvalue
          rfl
      | reference text' =>
          rw [show value = .str text'.val from hvalue, htruthy] at hfalsy
          cases hfalsy
  | reference text =>
      cases id' with
      | falsy value' hfalsy' =>
          rw [← show PyValue.str text.val = value' from hvalue, htruthy] at hfalsy'
          cases hfalsy'
      | reference text' => rw [Subtype.ext (PyValue.str.inj hvalue)]

/-- Its JSON text determines it, given that the float zero has a text of its own. -/
theorem SettlementReceiptId.toJson_inj (hfloat : floatText (.finite 0) ≠ .ofInt 0)
    {id id' : SettlementReceiptId} :
    id.toPy.toJson floatText = id'.toPy.toJson floatText ↔ id = id' := by
  constructor
  · intro hjson
    refine SettlementReceiptId.toPy_injective ?_
    have hcases := id.toPy_cases
    have hcases' := id'.toPy_cases
    generalize id.toPy = value at *
    generalize id'.toPy = value' at *
    simp only [List.mem_cons, List.not_mem_nil, or_false] at hcases hcases'
    rcases hcases with ⟨text, rfl⟩ | rfl | rfl | rfl | rfl | rfl | rfl <;>
      rcases hcases' with ⟨text', rfl⟩ | rfl | rfl | rfl | rfl | rfl | rfl <;>
      simp_all [PyValue.toJson, PyValue.toJsonItems, PyValue.toJsonMembers, eq_comm]
  · rintro rfl
    rfl

/-! ## Sections -/

theorem AgentSection.signedPart_eq {agent agent' : AgentSection}
    (hitems : agent.canonical.items = agent'.canonical.items) :
    agent.signedPart = agent'.signedPart := by
  have hentries := OrderedDict.Fields.entries_eq_of_items_eq hitems rfl
  simp only [AgentSection.canonical, List.cons.injEq, Prod.mk.injEq, Option.some.injEq,
    Json.string.injEq, Subtype.val_inj, map_string_inj, map_jsonInt_inj, true_and,
    and_true] at hentries
  obtain ⟨hdid, hfamily, hinstance, hconfig, hprompt, hepoch⟩ := hentries
  simp only [AgentSection.signedPart, hdid, hfamily, hinstance, hconfig, hprompt, hepoch]

theorem PolicySection.signedPart_eq {policy policy' : PolicySection}
    (hitems : policy.canonical.items = policy'.canonical.items) :
    policy.signedPart = policy'.signedPart := by
  have hentries := OrderedDict.Fields.entries_eq_of_items_eq hitems rfl
  simp only [PolicySection.canonical, List.cons.injEq, Prod.mk.injEq, Option.some.injEq,
    Json.string.injEq, Subtype.val_inj, map_jsonInt_inj, true_and, and_true] at hentries
  obtain ⟨htemplate, hversion, hdigest, hspend⟩ := hentries
  simp only [PolicySection.signedPart, htemplate, hversion, hdigest, hspend]

theorem Mandate.eq_of_canonical {mandate mandate' : Option Mandate}
    (hdigest : (mandate.map fun m => Json.string m.digestSha256Hex.val) =
      mandate'.map fun m => Json.string m.digestSha256Hex.val)
    (hreference : (mandate.bind fun m => m.referenceId) = mandate'.bind fun m => m.referenceId) :
    mandate = mandate' := by
  cases mandate with
  | none =>
      cases mandate' with
      | none => rfl
      | some mandate' => cases hdigest
  | some mandate =>
      cases mandate' with
      | none => cases hdigest
      | some mandate' =>
          obtain ⟨digest, reference⟩ := mandate
          obtain ⟨digest', reference'⟩ := mandate'
          have hsame : digest = digest' :=
            Subtype.ext (Json.string.inj (Option.some.inj hdigest))
          have hrefs : reference = reference' := hreference
          rw [hsame, hrefs]

theorem AuthorizationSection.signedPart_eq {authorization authorization' : AuthorizationSection}
    (hitems : authorization.canonical.items = authorization'.canonical.items) :
    authorization.signedPart = authorization'.signedPart := by
  have hentries := OrderedDict.Fields.entries_eq_of_items_eq hitems rfl
  simp only [AuthorizationSection.canonical, List.cons.injEq, Prod.mk.injEq, Option.some.injEq,
    Json.string.injEq, Json.object.injEq, Subtype.val_inj, map_string_inj, jsonInt_inj,
    canonicalTokens_inj, true_and, and_true] at hentries
  obtain ⟨hprincipal, hactor, hagent, hdecision, haudit, hpolicy, hauthorized, hcents, hcurrency,
    hcodes, hdigest, hreference, hproof⟩ := hentries
  simp only [AuthorizationSection.signedPart, hprincipal, hactor, hdecision, haudit, hauthorized,
    hcents, hcurrency, hcodes, hproof, AgentSection.signedPart_eq hagent,
    PolicySection.signedPart_eq hpolicy, Mandate.eq_of_canonical hdigest hreference]

theorem ExecutionSection.signedPart_eq {execution execution' : ExecutionSection}
    (hitems : execution.canonical.items = execution'.canonical.items) :
    execution.signedPart = execution'.signedPart := by
  have hentries := OrderedDict.Fields.entries_eq_of_items_eq hitems rfl
  simp only [ExecutionSection.canonical, List.cons.injEq, Prod.mk.injEq, Option.some.injEq,
    Json.string.injEq, Subtype.val_inj, map_string_inj, map_jsonInt_val_inj,
    ExecutionOutcome.text_inj, true_and, and_true] at hentries
  obtain ⟨hrun, hcall, htool, hoperation, harguments, hresult, houtcome, hstarted, hcompleted,
    hduration, htee⟩ := hentries
  simp only [ExecutionSection.signedPart, hrun, hcall, htool, hoperation, harguments, hresult,
    houtcome, hstarted, hcompleted, hduration, htee]

theorem MerchantSection.signedPart_eq {merchant merchant' : MerchantSection}
    (hitems : merchant.canonical.items = merchant'.canonical.items) :
    merchant.signedPart = merchant'.signedPart := by
  have hentries := OrderedDict.Fields.entries_eq_of_items_eq hitems rfl
  simp only [MerchantSection.canonical, List.cons.injEq, Prod.mk.injEq, Option.some.injEq,
    Json.string.injEq, Subtype.val_inj, map_string_inj, true_and, and_true] at hentries
  obtain ⟨hpayee, hvendor, hreference⟩ := hentries
  simp only [MerchantSection.signedPart, hpayee, hvendor, hreference]

theorem EvidenceSection.eq_of_canonical {evidence evidence' : EvidenceSection}
    (hitems : evidence.canonical.items = evidence'.canonical.items) : evidence = evidence' := by
  have hentries := OrderedDict.Fields.entries_eq_of_items_eq hitems rfl
  simp only [EvidenceSection.canonical, List.cons.injEq, Prod.mk.injEq, Option.some.injEq,
    Json.string.injEq, Json.bool.injEq, Subtype.val_inj, map_string_inj, true_and,
    and_true] at hentries
  obtain ⟨hpreset, hpayload, hartifacts, hpassed, hpayee, hsignature⟩ := hentries
  rw [EvidenceSection.mk.injEq]
  exact ⟨hpreset, hpayload, hpassed, hpayee, hartifacts, hsignature⟩

theorem PaymentSection.signedPart_eq {payment payment' : PaymentSection}
    (hitems : payment.canonical.items = payment'.canonical.items) :
    payment.signedPart = payment'.signedPart := by
  have hentries := OrderedDict.Fields.entries_eq_of_items_eq hitems rfl
  simp only [PaymentSection.canonical, List.cons.injEq, Prod.mk.injEq, Option.some.injEq,
    Json.string.injEq, Subtype.val_inj, map_string_inj, true_and, and_true] at hentries
  obtain ⟨hintent, hrail, hmethod, hreference, hreceipt⟩ := hentries
  simp only [PaymentSection.signedPart, hintent, hrail, hmethod, hreference, hreceipt]

theorem OutcomeSection.eq_of_canonical {outcome outcome' : OutcomeSection}
    (hitems : outcome.canonical.items = outcome'.canonical.items) : outcome = outcome' := by
  have hentries := OrderedDict.Fields.entries_eq_of_items_eq hitems rfl
  simp only [OutcomeSection.canonical, List.cons.injEq, Prod.mk.injEq, Option.some.injEq,
    Json.string.injEq, Subtype.val_inj, map_bool_inj, map_spendReservationOutcome_inj,
    map_settlementOutcome_inj, true_and, and_true] at hentries
  rw [OutcomeSection.mk.injEq]
  exact hentries

theorem ReferencesSection.eq_of_canonical (hfloat : floatText (.finite 0) ≠ .ofInt 0)
    {references references' : ReferencesSection}
    (hitems : (references.canonical floatText).items = (references'.canonical floatText).items) :
    references = references' := by
  have hentries := OrderedDict.Fields.entries_eq_of_items_eq hitems rfl
  simp only [ReferencesSection.canonical, List.cons.injEq, Prod.mk.injEq, Option.some.injEq,
    Json.string.injEq, Subtype.val_inj, map_jsonInt_val_inj,
    SettlementReceiptId.toJson_inj hfloat, true_and, and_true] at hentries
  obtain ⟨hintent, hseq, hsettlement⟩ := hentries
  rw [ReferencesSection.mk.injEq]
  exact ⟨hintent, hsettlement, hseq⟩

theorem ExternalAttestation.eq_of_canonical {attestation attestation' : ExternalAttestation}
    (hitems : attestation.canonical.items = attestation'.canonical.items) :
    attestation = attestation' := by
  have hentries := OrderedDict.Fields.entries_eq_of_items_eq hitems rfl
  simp only [ExternalAttestation.canonical, List.cons.injEq, Prod.mk.injEq, Option.some.injEq,
    Json.string.injEq, Subtype.val_inj, map_string_inj, true_and, and_true] at hentries
  rw [ExternalAttestation.mk.injEq]
  exact hentries

theorem canonicalAttestations_inj {attestations attestations' : List ExternalAttestation} :
    canonicalAttestations attestations = canonicalAttestations attestations' ↔
      attestations = attestations' := by
  have hobjects : Function.Injective
      (List.map fun attestation : ExternalAttestation => Json.object attestation.canonical.items) :=
    List.map_injective_iff.mpr fun _ _ hobject =>
      ExternalAttestation.eq_of_canonical (Json.object.inj hobject)
  constructor
  · intro hcanonical
    unfold canonicalAttestations at hcanonical
    split at hcanonical <;> split at hcanonical
    next hnil hnil' => rw [hnil, hnil']
    next => cases hcanonical
    next => cases hcanonical
    next => exact hobjects (Json.array.inj hcanonical)
  · rintro rfl
    rfl

/-- Its number and its digest determine a link. -/
theorem ChainLink.eq_of_canonical {link link' : ChainLink}
    (hseq : link.sequenceNumber = link'.sequenceNumber)
    (hprev : link.prevMessageDigestSha256Hex = link'.prevMessageDigestSha256Hex) :
    link = link' := by
  cases link with
  | first =>
      cases link' with
      | first => rfl
      | after seq' prev' => cases hprev
  | after seq prev =>
      cases link' with
      | first => cases hprev
      | after seq' prev' => rw [Subtype.ext hseq, Option.some.inj hprev]

theorem ContinuitySection.eq_of_canonical {continuity continuity' : ContinuitySection}
    (hitems : continuity.canonical.items = continuity'.canonical.items) :
    continuity = continuity' := by
  have hentries := OrderedDict.Fields.entries_eq_of_items_eq hitems rfl
  simp only [ContinuitySection.canonical, List.cons.injEq, Prod.mk.injEq, Option.some.injEq,
    Json.string.injEq, Subtype.val_inj, map_string_inj, jsonInt_inj, true_and,
    and_true] at hentries
  obtain ⟨hprev, hseq, hrun⟩ := hentries
  rw [ContinuitySection.mk.injEq]
  exact ⟨ChainLink.eq_of_canonical hseq hprev, hrun⟩

/-! ## The receipt -/

/-- A section that may be missing, from the object of it. -/
theorem map_object_signedPart {α : Type} {canonical : α → JsonFields} (signedPart : α → α)
    (hsection : ∀ first second : α,
      (canonical first).items = (canonical second).items → signedPart first = signedPart second)
    {first second : Option α}
    (hobject : (first.map fun part => Json.object (canonical part).items) =
      second.map fun part => Json.object (canonical part).items) :
    first.map signedPart = second.map signedPart := by
  cases first with
  | none =>
      cases second with
      | none => rfl
      | some second => cases hobject
  | some first =>
      cases second with
      | none => cases hobject
      | some second =>
          have hitems := Json.object.inj (Option.some.inj hobject)
          exact congrArg some (hsection first second hitems)

/-- The canonical bytes determine the signed part, but for the digest and the name of the
algorithm. -/
theorem AgentReceipt.signedPart_eq (hfloat : floatText (.finite 0) ≠ .ofInt 0)
    {receipt receipt' : AgentReceipt}
    (hbytes : receipt.canonicalBytes floatText = receipt'.canonicalBytes floatText)
    (hdigest : receipt.messageDigestSha256Hex = receipt'.messageDigestSha256Hex)
    (halgorithm : receipt.signingAlgorithm = receipt'.signingAlgorithm) :
    receipt.signedPart = receipt'.signedPart := by
  have hitems := Json.object.inj (jsonDumpsBytes_injective hbytes)
  have hentries := OrderedDict.Fields.entries_eq_of_items_eq hitems rfl
  simp only [AgentReceipt.canonical, List.cons.injEq, Prod.mk.injEq, Option.some.injEq,
    Json.string.injEq, Json.object.injEq, Subtype.val_inj, ReceiptScope.text_inj,
    canonicalAttestations_inj, true_and, and_true] at hentries
  obtain ⟨hscope, hid, hissued, htenant, hauthorization, hexecution, hmerchant, hevidence, hpayment,
    houtcome, hreferences, hattestations, hcontinuity⟩ := hentries
  have hexecution := map_object_signedPart ExecutionSection.signedPart
    (fun _ _ => ExecutionSection.signedPart_eq) hexecution
  have hmerchant := map_object_signedPart MerchantSection.signedPart
    (fun _ _ => MerchantSection.signedPart_eq) hmerchant
  have hpayment := map_object_signedPart PaymentSection.signedPart
    (fun _ _ => PaymentSection.signedPart_eq) hpayment
  have hevidence : receipt.evidence = receipt'.evidence := by
    simpa using map_object_signedPart id (fun _ _ => EvidenceSection.eq_of_canonical) hevidence
  have hcontinuity : receipt.continuity = receipt'.continuity := by
    simpa using map_object_signedPart id
      (fun _ _ => ContinuitySection.eq_of_canonical) hcontinuity
  simp only [AgentReceipt.signedPart, hscope, hid, hissued, htenant, hexecution, hmerchant,
    hevidence, hpayment, hattestations, hcontinuity, hdigest, halgorithm,
    AuthorizationSection.signedPart_eq hauthorization, OutcomeSection.eq_of_canonical houtcome,
    ReferencesSection.eq_of_canonical hfloat hreferences]

/-- Accepted receipts with one digest agree on all that is signed: on every field but the
signing key, the signature and the operator's attestation, where a blank text or a zero in a
field that the canonical form leaves out counts as a missing one. -/
theorem signedPart_eq_of_accepted (platform : Platform) {receipt receipt' : Mapping}
    {options options' : VerifyOptions} {normalized normalized' : AgentReceipt}
    (haccepted : verifyAgentReceiptV1 platform receipt options = .ok normalized)
    (haccepted' : verifyAgentReceiptV1 platform receipt' options' = .ok normalized')
    (hdigest : normalized.messageDigestSha256Hex = normalized'.messageDigestSha256Hex)
    (hcollision : platform.sha256Hex (normalized.canonicalBytes platform.floatText) =
        platform.sha256Hex (normalized'.canonicalBytes platform.floatText) →
      normalized.canonicalBytes platform.floatText = normalized'.canonicalBytes platform.floatText)
    (hfloat : platform.floatText (.finite 0) ≠ .ofInt 0) :
    normalized.signedPart = normalized'.signedPart := by
  obtain ⟨-, requiredTier, -, hcheck⟩ := verifyAgentReceiptV1_eq_ok.mp haccepted
  obtain ⟨-, requiredTier', -, hcheck'⟩ := verifyAgentReceiptV1_eq_ok.mp haccepted'
  obtain ⟨hbytes, halgorithm⟩ := checkReceipt_digest hcheck
  obtain ⟨hbytes', halgorithm'⟩ := checkReceipt_digest hcheck'
  refine AgentReceipt.signedPart_eq hfloat (hcollision ?_) hdigest
    (halgorithm.trans halgorithm'.symm)
  rw [← hbytes, ← hbytes', hdigest]

end Injective

/-! ## A terminal receipt -/

def zeroDigest : Hex64 :=
  ⟨"0000000000000000000000000000000000000000000000000000000000000000",
    hex64Re_ofList (by decide) rfl⟩

def terminalIntent : Uuid := ⟨"11111111-1111-1111-1111-111111111111", by decide +kernel⟩

/-- What one signer signs of a receipt, with the two halves of the signature. -/
structure SignedDigest where
  digest : Hex64
  publicKey : Hex64
  signatureHigh : Hex64
  signatureLow : Hex64

def SignedDigest.signature (signed : SignedDigest) : String :=
  signed.signatureHigh.val ++ signed.signatureLow.val

/-- The receipt of a settled intent. -/
def terminalReceipt (epoch : Option Int) (attestations : List ExternalAttestation)
    (signed : SignedDigest) : AgentReceipt where
  scope := .intentTerminal
  receiptId := terminalIntent.val
  issuedAt := "2026-01-01T00:00:00Z"
  tenantId := ⟨"tenant-a", by decide +kernel⟩
  authorization :=
    { principalDid := ⟨"did:web:principal", by decide +kernel⟩
      actorSubject := ⟨"agent-1", by decide +kernel⟩
      agent :=
        { operatorDid := ⟨"did:web:operator", by decide +kernel⟩
          modelFamily := ⟨"claude", by decide +kernel⟩
          configHashSha256Hex := zeroDigest
          promptHashSha256Hex := zeroDigest
          modelInstanceId := none
          deploymentEpoch := epoch }
      decisionId := terminalIntent
      policy :=
        { templateId := ⟨"travel", by decide +kernel⟩
          contentDigestSha256Hex := zeroDigest
          versionSeq := none
          spendPolicyVersion := none }
      authorizedAt := "2026-01-01T00:00:00Z"
      requestedSpendCents := ⟨100, by decide⟩
      currency := ⟨"usd", by decide +kernel⟩
      reasonCodes := .empty
      auditId := none
      mandate := none
      zkPolicyProofDigestSha256Hex := none }
  outcome :=
    { harborState := ⟨"settled", by decide +kernel⟩
      spendReservationOutcome := none
      predicatePassed := none
      settlementOutcome := none }
  references :=
    { intentId := terminalIntent
      settlementReceiptId := .falsy .none PyValue.truthy_none
      ledgerSeq := none }
  externalAttestations := attestations
  signingAlgorithm := agentReceiptSigningAlgorithmEd25519
  messageDigestSha256Hex := signed.digest.val
  signingPublicKeyEd25519Hex := signed.publicKey.val
  ed25519SignatureHex := signed.signature
  execution := none
  merchant := none
  evidence := none
  payment := none
  continuity := none
  operatorAttestation := none

/-- A platform that is asked for one time only, with the digests that it is asked for. -/
def terminalPlatform (sha256Hex : ByteArray → String) : Platform where
  lower text := text
  repr _ := "None"
  parseInt _ := none
  utcSeconds text :=
    if text = "2026-01-01T00:00:00+00:00" then .ok 1767225600
    else .error (.valueError "Invalid isoformat string")
  strftime _ := "2026-01-01T00:00:00Z"
  floatText _ :=
    { text := ['0', '.', '0'], starts := ⟨'0', _, rfl, by decide⟩,
      inside := forall_mem_of_all (by decide) }
  sha256Hex := sha256Hex
  ed25519Verify _ _ _ := true

section Terminal

variable {sha256Hex : ByteArray → String}

theorem lowerLaws_terminal : (terminalPlatform sha256Hex).LowerLaws where
  token _ _ := rfl
  lower_lower _ := rfl
  strip_lower := pyStrip_pyStrip

theorem formatRfc3339Seconds_terminal :
    (terminalPlatform sha256Hex).formatRfc3339Seconds "2026-01-01T00:00:00Z" =
      .ok "2026-01-01T00:00:00Z" := by
  have hreplace : String.ofList ("2026-01-01T00:00:00Z".toList.flatMap fun c =>
      if c = 'Z' then "+00:00".toList else [c]) = "2026-01-01T00:00:00+00:00" := by
    decide +kernel
  rw [Platform.formatRfc3339Seconds, hreplace]
  rfl

theorem verifySignature_hex (publicKey high low : Hex64) (digest : String)
    (badMaterial badSignature : PyExc) :
    verifySignature (terminalPlatform sha256Hex) publicKey.val (high.val ++ low.val) digest
      badMaterial badSignature = .ok () := by
  have hhex : ∀ hex : Hex64, (∀ c ∈ hex.val.toList, isLowerHex c = true) ∧
      hex.val.toList.length = 64 := by
    intro hex
    simpa [hex64Re] using hex.property
  have hsignature : ∀ c ∈ (high.val ++ low.val).toList, isLowerHex c = true := by
    intro c hc
    rcases List.mem_append.mp (String.toList_append ▸ hc) with hhigh | hlow
    · exact (hhex high).1 c hhigh
    · exact (hhex low).1 c hlow
  have hlength : (high.val ++ low.val).toList.length = 2 * 64 := by
    rw [String.toList_append, List.length_append, (hhex high).2, (hhex low).2]
  obtain ⟨keyBytes, hkey, hkeySize⟩ := @bytesFromHex_size _ 32 (hhex publicKey).1 (hhex publicKey).2
  obtain ⟨signatureBytes, hbytes, hsize⟩ := bytesFromHex_size hsignature hlength
  simp only [verifySignature, hkey, hbytes, except_ok_bind, hkeySize, hsize]
  rfl

variable {epoch : Option Int} {attestations : List ExternalAttestation} {signed : SignedDigest}

theorem rereads_terminal 
    (hattestations : attestations.map ExternalAttestation.reread = attestations) :
    Rereads (terminalPlatform sha256Hex) (terminalReceipt epoch attestations signed) where
  receiptId := Platform.stripLower_uuid lowerLaws_terminal terminalIntent
  receiptId_ne := Matching.ne_empty (by decide) terminalIntent
  authorization := by
    rw [normalizeAuthorization_fields lowerLaws_terminal]
    exact except_map_eq_ok.mpr ⟨_, formatRfc3339Seconds_terminal, rfl⟩
  externalAttestations := by
    rw [normalizeExternalAttestations_toPy lowerLaws_terminal]
    exact congrArg Except.ok hattestations
  mandate := rfl
  outcome hsettled := absurd rfl hsettled
  execution := rfl
  issuedAt := formatRfc3339Seconds_terminal
  signingAlgorithm := by
    have halgorithm : (terminalPlatform sha256Hex).stripLower agentReceiptSigningAlgorithmEd25519 =
        agentReceiptSigningAlgorithmEd25519 :=
      Platform.stripLower_eq_self lowerLaws_terminal (forall_mem_of_all (by decide))
    change agentReceiptSigningAlgorithmEd25519 =
      if (terminalPlatform sha256Hex).stripLower agentReceiptSigningAlgorithmEd25519 = "" then _
      else (terminalPlatform sha256Hex).stripLower agentReceiptSigningAlgorithmEd25519
    rw [halgorithm]
    rfl
  messageDigest := Platform.stripLower_hex64 lowerLaws_terminal signed.digest
  publicKey := Platform.stripLower_hex64 lowerLaws_terminal signed.publicKey
  signature := by
    refine Platform.stripLower_eq_self lowerLaws_terminal fun c hc => ?_
    rcases List.mem_append.mp (String.toList_append ▸ hc) with hhigh | hlow
    · exact admitsTokens_hex64Re _ signed.signatureHigh.property c hhigh
    · exact admitsTokens_hex64Re _ signed.signatureLow.property c hlow
  merchant _ hpart := nomatch hpart
  payment _ hpart := nomatch hpart
  continuity _ hpart := nomatch hpart
  operatorAttestation _ hpart := nomatch hpart
  receiptIdHolds := by
    have huuid := Platform.parseUuid_uuid (@lowerLaws_terminal sha256Hex)
      terminalIntent "receipt_id"
    simp only [verifyReceiptId, terminalReceipt, ne_eq, not_true_eq_false, huuid, raiseIf,
      if_false, except_ok_bind]
    rfl

theorem checkReceipt_terminal 
    (hdigest : sha256Hex ((terminalReceipt epoch attestations signed).canonicalBytes
      (terminalPlatform sha256Hex).floatText) = signed.digest.val) :
    checkReceipt (terminalPlatform sha256Hex) {} .operational
      (terminalReceipt epoch attestations signed) = .ok () := by
  have hhex : ∀ field, requireHex64 signed.digest.val field = .ok signed.digest :=
    fun field => checked_eq_ok.mpr rfl
  have hprior : verifyContinuityExpectedPrior (terminalPlatform sha256Hex)
      (terminalReceipt epoch attestations signed) none = .ok () := by
    rw [verifyContinuityExpectedPrior]
    exact if_pos rfl
  have hsha : (terminalPlatform sha256Hex).sha256Hex
      ((terminalReceipt epoch attestations signed).canonicalBytes
        (terminalPlatform sha256Hex).floatText) = signed.digest.val := hdigest
  simp only [checkReceipt, hsha, except_bind_eq_ok, raiseIf_eq_ok, exists_const, not_not]
  exact ⟨(), hprior, by simp [allowsSigningPublicKeyHex], rfl, _, hhex _, rfl, (),
    verifySignature_hex .., (), rfl, rfl⟩

/-- The normalized receipt is accepted, when its digest is that of its canonical bytes. -/
theorem accepted_terminal 
    (hattestations : attestations.map ExternalAttestation.reread = attestations)
    (hdigest : sha256Hex ((terminalReceipt epoch attestations signed).canonicalBytes
      (terminalPlatform sha256Hex).floatText) = signed.digest.val) :
    verifyAgentReceiptV1 (terminalPlatform sha256Hex)
        (terminalReceipt epoch attestations signed).toMapping {} =
      .ok (terminalReceipt epoch attestations signed) := by
  have hrereads : Rereads (terminalPlatform sha256Hex)
      (terminalReceipt epoch attestations signed) := rereads_terminal hattestations
  have hnormalizes := normalizes_toMapping lowerLaws_terminal hrereads
  exact verifyAgentReceiptV1_eq_ok.mpr ⟨normalizeReceipt_eq_ok.mpr hnormalizes, .operational, rfl,
    checkReceipt_terminal hdigest⟩

end Terminal

def signedFirst : SignedDigest where
  digest :=
    ⟨"377d671e85fff64ad137e7850e2b02f3e907c6a848a8d32db46def8b1a291140",
      hex64Re_ofList (by decide) rfl⟩
  publicKey :=
    ⟨"3b6a27bcceb6a42d62a3a8d02a6f0d73653215771de243a63ac048a18b59da29",
      hex64Re_ofList (by decide) rfl⟩
  signatureHigh :=
    ⟨"f68df7bde9f1227f38ebaca1bc072377623150b41047eeb6c66f47234477b5a9",
      hex64Re_ofList (by decide) rfl⟩
  signatureLow :=
    ⟨"d979b9b9f0bc19847519a63308c3ee45ea8b5e2d361594e086c15383cad55d07",
      hex64Re_ofList (by decide) rfl⟩

/-- The same digest under another key. -/
def signedSecond : SignedDigest where
  digest := signedFirst.digest
  publicKey :=
    ⟨"8a88e3dd7409f195fd52db2d3cba5d72ca6709bf1d94121bf3748801b40f6f5c",
      hex64Re_ofList (by decide) rfl⟩
  signatureHigh :=
    ⟨"d035450ce2e28192726bbf8135ef215417d5c5ad56eb54ec7744550284bf1103",
      hex64Re_ofList (by decide) rfl⟩
  signatureLow :=
    ⟨"77e92b292cf10c0500d63540b53cfeecbaf9b7378288f17de1bd19aaa3a7b700",
      hex64Re_ofList (by decide) rfl⟩

/-- Two receipts of one settlement, one with an epoch of zero and another key. -/
theorem signedPart_eq_of_accepted_settled :
    (terminalReceipt none [] signedFirst).signedPart =
      (terminalReceipt (some 0) [] signedSecond).signedPart := by
  let platform := terminalPlatform fun _ => signedFirst.digest.val
  have hfirst := @accepted_terminal (fun _ => signedFirst.digest.val) none [] signedFirst rfl rfl
  have hsecond :=
    @accepted_terminal (fun _ => signedFirst.digest.val) (some 0) [] signedSecond rfl rfl
  have hfloat : platform.floatText (.finite 0) ≠ .ofInt 0 := by
    intro hzero
    exact absurd (congrArg JsonNumber.text hzero) (by decide)
  exact signedPart_eq_of_accepted platform hfirst hsecond rfl (fun _ => rfl) hfloat

end PaybondKit.Receipt
