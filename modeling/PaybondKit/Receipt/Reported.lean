import PaybondKit.Agent.Idle
import PaybondKit.Agent.PinnedDigest
import PaybondKit.Receipt.DraftForm

/-!
# What a draft reports of the request

An execution takes an authorization from the cache when operation, amount and tool agree,
and drafts its receipt from its own arguments. The draft reports the request that Harbor
allowed exactly when the two calls also name one currency, one subject and one vendor.
-/

namespace PaybondKit.Receipt

open Agent Coroutine

/-! ## The request and the draft -/

/-- The subject for whom a call asks: its own, or the operator. -/
def callSubject (binding : PaybondRunBinding) (input : ToolCallInput) : Option String :=
  (truthyStr input.agentSubject).or (binding.agentContext.bind (·.operatorDid))

/-- A currency as a receipt writes it. -/
def receiptCurrency (platform : Platform) (currency : Option String) : String :=
  platform.lower ((truthyStr currency).getD "usd")

/-- The request hands on what the call names. -/
structure Forwards (binding : PaybondRunBinding) (input : ToolCallInput) (request : SpendRequest) :
    Prop where
  vendorId : request.vendorId = input.vendorId
  currency : request.currency = input.currency
  agentSubject : request.agentSubject = callSubject binding input

/-- The draft reports the amount, the currency, the subject and the vendor of the request. -/
structure ReportsRequest (platform : Platform) (draft : AgentReceiptDraft)
    (request : SpendRequest) : Prop where
  requestedSpendCents :
    draft.authorization.requestedSpendCents = some request.requestedSpendCents
  currency : draft.authorization.currency = receiptCurrency platform request.currency
  actorSubject : some draft.authorization.actorSubject = request.agentSubject
  vendorId : ∀ merchant, draft.merchant = some merchant →
    merchant.vendorId = truthyStr request.vendorId

/-- The draft reports what the call names. -/
structure ReportsCall (platform : Platform) (binding : PaybondRunBinding) (input : ToolCallInput)
    (draft : AgentReceiptDraft) : Prop where
  currency : draft.authorization.currency = receiptCurrency platform input.currency
  actorSubject : some draft.authorization.actorSubject = callSubject binding input
  vendorId : ∀ merchant, draft.merchant = some merchant →
    merchant.vendorId = truthyStr input.vendorId

/-- The call that asked names the currency and the subject of the execution, and its vendor
where the receipt has a merchant section. -/
structure SameParties (platform : Platform) (binding : PaybondRunBinding)
    (asked executed : ToolCallInput) (merchant : Prop) : Prop where
  currency : receiptCurrency platform asked.currency = receiptCurrency platform executed.currency
  subject : callSubject binding asked = callSubject binding executed
  vendorId : merchant → truthyStr asked.vendorId = truthyStr executed.vendorId

theorem forwards_buildAuthKwargs {binding : PaybondRunBinding} (toolName toolCallId : String)
    (input : ToolCallInput) (operation : String) (spendCents : Option Int) :
    Forwards binding input
      (buildAuthKwargs binding toolName toolCallId input operation spendCents) :=
  ⟨rfl, rfl, rfl⟩

section Reports

variable {platform : Platform} {binding : PaybondRunBinding} {asked executed : ToolCallInput}
variable {draft : AgentReceiptDraft} {request : SpendRequest} {merchant : Prop}

/-- A draft reports a request of the same amount if the two calls name the same parties. -/
theorem reportsRequest_iff (hforwards : Forwards binding asked request)
    (hreports : ReportsCall platform binding executed draft)
    (hspend : draft.authorization.requestedSpendCents = some request.requestedSpendCents)
    (hmerchant : draft.merchant.isSome = true ↔ merchant) :
    ReportsRequest platform draft request ↔
      SameParties platform binding asked executed merchant := by
  constructor
  · rintro ⟨-, hcurrency, hsubject, hvendor⟩
    refine ⟨?_, ?_, fun hdue => ?_⟩
    · rw [← hforwards.currency, ← hcurrency, hreports.currency]
    · rw [← hforwards.agentSubject, ← hsubject, hreports.actorSubject]
    · obtain ⟨section_, hsome⟩ := Option.isSome_iff_exists.mp (hmerchant.mpr hdue)
      rw [← hforwards.vendorId, ← hvendor section_ hsome, hreports.vendorId section_ hsome]
  · rintro ⟨hcurrency, hsubject, hvendor⟩
    refine ⟨hspend, ?_, ?_, fun section_ hsome => ?_⟩
    · rw [hreports.currency, hforwards.currency, hcurrency]
    · rw [hreports.actorSubject, hforwards.agentSubject, hsubject]
    · have hdue : merchant := hmerchant.mp (by rw [hsome]; rfl)
      rw [hreports.vendorId section_ hsome, hforwards.vendorId, hvendor hdue]

/-- A draft that normalizes has an amount. -/
theorem Normalizes.requestedSpendCents {normalized : AgentReceipt}
    (h : Normalizes platform (draftMapping draft) normalized) :
    draft.authorization.requestedSpendCents.isSome = true := by
  obtain ⟨value, hvalue, hauthorization⟩ := h.authorization
  have hget : item (draftMapping draft) "authorization" =
      .ok (.dict (draftAuthorization draft.authorization).items) := by
    simp [item, get?_draftMapping, draftFields]
  obtain rfl := Except.ok.inj (hget.symm.trans hvalue)
  cases hspend : draft.authorization.requestedSpendCents with
  | some cents => rfl
  | none =>
      -- `int(None)` raises
      have hitem : item (draftAuthorization draft.authorization).mapping "requested_spend_cents" =
          .ok .none := by
        simp [item, OrderedDict.Fields.get?_mapping, draftAuthorization, hspend]
      simp only [normalizeAuthorization, except_bind_eq_ok] at hauthorization
      obtain ⟨mapping, hmapping, _, -, _, -, _, -, _, -, _, -, _, -, value, hvalue, cents, hcents,
        -⟩ := hauthorization
      obtain rfl := Except.ok.inj ((asMapping_items _ _).symm.trans hmapping)
      obtain rfl := Except.ok.inj (hitem.symm.trans hvalue)
      cases hcents

end Reports

/-! ## What an execution drafts -/

section Drafts

variable {platform : Platform} {surroundings : Agent.Platform} {binding : PaybondRunBinding}
variable {draft : AgentReceiptDraft}

/-- The binding names a payee. -/
def HasPayee (binding : PaybondRunBinding) : Prop :=
  (truthyStr (binding.productionEvidence.map (·.payeeDid))).isSome = true

/-- The evidence was accepted with the digest of its payload. -/
def HasDigest (evidence : PaybondInterceptEvidenceResult) : Prop :=
  (truthyStr evidence.payloadDigestSha256Hex).isSome = true

theorem isSome_receiptPayee (receipt : ReceiptInput) :
    (receiptPayee binding receipt).isSome = true ↔
      HasPayee binding ∧ HasDigest receipt.evidence := by
  unfold HasPayee HasDigest receiptPayee
  cases truthyStr (binding.productionEvidence.map (·.payeeDid)) with
  | none => simp
  | some payeeDid =>
      cases truthyStr receipt.evidence.payloadDigestSha256Hex with
      | none => simp
      | some digest => simp

theorem eq_some_of_truthyStr {value : Option String} {text : String}
    (hvalue : truthyStr value = some text) : value = some text :=
  (Option.filter_eq_some_iff.mp hvalue).1

/-- A draft reports the arguments that it is composed of. -/
theorem reportsCall_of_composeReceiptDraft {agentContext : PaybondRunAgentContext}
    {context : ReceiptContext} {receipt : ReceiptInput} {input : ToolCallInput} {completedAtMs : ℕ}
    (hbound : binding.agentContext = some agentContext)
    (hcontext : receiptContext agentContext receipt = some context)
    (hsubject : receipt.agentSubject = callSubject binding input)
    (hcurrency : receipt.currency = input.currency) (hvendor : receipt.vendorId = input.vendorId)
    (hdraft : composeReceiptDraft (composing platform surroundings) binding agentContext context
      receipt completedAtMs = .ok draft) :
    ReportsCall platform binding input draft ∧
      draft.authorization.requestedSpendCents = receipt.requestedSpendCents ∧
      receipt.auth.decisionId = some draft.authorization.decisionId ∧
      (draft.merchant.isSome = true ↔ HasPayee binding ∧ HasDigest receipt.evidence) := by
  simp only [receiptContext, Option.bind_eq_bind, Option.bind_eq_some_iff, Option.pure_def,
    Option.some.injEq] at hcontext
  obtain ⟨operatorDid, hoperator, _, -, _, -, _, -, _, -, decisionId, hdecision, _, -, rfl⟩ :=
    hcontext
  simp only [composeReceiptDraft, except_bind_eq_ok, except_pure_eq_ok] at hdraft
  obtain ⟨arguments, -, digest, -, rfl⟩ := hdraft
  refine ⟨⟨?_, ?_, fun merchant hmerchant => ?_⟩, rfl, hdecision, ?_⟩
  · rw [← hcurrency]
    rfl
  · change some ((truthyStr receipt.agentSubject).getD operatorDid) = _
    rw [hsubject, callSubject, hbound, Option.bind_some]
    cases hown : truthyStr input.agentSubject with
    | none =>
        rw [Option.none_or, hoperator, eq_some_of_truthyStr hoperator]
        rfl
    | some subject =>
        have hkept : truthyStr (some subject) = some subject := by
          rwa [eq_some_of_truthyStr hown] at hown
        rw [Option.some_or, hkept]
        rfl
  · obtain ⟨payee, hpayee, rfl⟩ := Option.map_eq_some_iff.mp hmerchant
    simp only [receiptPayee, Option.bind_eq_bind, Option.bind_eq_some_iff, Option.pure_def,
      Option.some.injEq] at hpayee
    obtain ⟨_, -, _, -, rfl⟩ := hpayee
    rw [← hvendor]
  · change ((receiptPayee binding receipt).map Prod.fst).isSome = true ↔ _
    rw [Option.isSome_map]
    exact isSome_receiptPayee receipt

end Drafts

/-! ## What a call knows of its authorization -/

/-- What an answer to a submission makes of the evidence. -/
def evidence? (composed : Agent.Platform) (binding : PaybondRunBinding) :
    AgentEvent → Option PaybondInterceptEvidenceResult
  | .completed (.host (.submitSandboxEvidence _ _ _ _ _ _)) (.ok result) =>
      some (sandboxEvidence composed result)
  | .completed (.host (.submitEvidence _ _ _)) (.ok result) =>
      some (productionEvidence composed binding result)
  | _ => none

/-- Evidence was accepted with the digest of its payload. -/
def Digests (composed : Agent.Platform) (binding : PaybondRunBinding) (event : AgentEvent) : Prop :=
  ∃ evidence, evidence? composed binding event = some evidence ∧ HasDigest evidence

/-- Harbor's answer to the call, what it took from the cache, and the evidence submitted
for it. -/
structure ReceiptView where
  granted : Option (SpendRequest × VerifyCapabilityResult) := none
  taken : Option (String × CachedAuthorizationEntry) := none
  evidence : List PaybondInterceptEvidenceResult := []

def ReceiptView.record (composed : Agent.Platform) (binding : PaybondRunBinding)
    (view : ReceiptView) (step : AgentStep) : ReceiptView :=
  match step.event with
  | .completed (.host (.verifyCapability request)) (.ok result) =>
      { view with granted := some (request, result) }
  | .completed (.access (.takeValidCachedAuthorization cacheKey _)) (.ok (some entry)) =>
      { view with taken := some (cacheKey, entry) }
  | event => { view with evidence := (evidence? composed binding event).toList ++ view.evidence }

/-- The draft is covered by what the call knows, for the amount it records. -/
def Covered (view : ReceiptView) (draft : AgentReceiptDraft) : Prop :=
  match view.taken with
  | some (_, entry) =>
      entry.auth.decisionId = some draft.authorization.decisionId ∧
        entry.requestedSpendCents = draft.authorization.requestedSpendCents
  | none => ∃ request result, view.granted = some (request, result) ∧ result.allow = true ∧
      result.decisionId = some draft.authorization.decisionId ∧
      request.requestedSpendCents = draft.authorization.requestedSpendCents.getD 0

theorem covered_of_granted {view : ReceiptView} {draft : AgentReceiptDraft}
    {request : SpendRequest} {result : VerifyCapabilityResult} (htaken : view.taken = none)
    (hgranted : view.granted = some (request, result)) (hallow : result.allow = true)
    (hdecision : result.decisionId = some draft.authorization.decisionId)
    (hcents : request.requestedSpendCents = draft.authorization.requestedSpendCents.getD 0) :
    Covered view draft := by
  unfold Covered
  rw [htaken]
  exact ⟨request, result, hgranted, hallow, hdecision, hcents⟩

/-- The receipt of the call has a merchant section. -/
def MerchantDue (binding : PaybondRunBinding) (view : ReceiptView) : Prop :=
  HasPayee binding ∧ ∃ evidence ∈ view.evidence, HasDigest evidence

/-- The arguments of a call of the interceptor. -/
def toolInput? : AgentCall → Option ToolCallInput
  | .authorizeToolCall input | .wrapExecute input => some input
  | _ => none

section Protocol

variable (platform : Platform) (surroundings : Agent.Platform) (binding : PaybondRunBinding)

/-- Requests hand on what their call names, and drafts report it. -/
def ReceiptAllowed (call : AgentCall) (view : ReceiptView) (step : AgentStep) : Prop :=
  match step.event with
  | .completed (.host (.verifyCapability request)) _ =>
      ∀ input, toolInput? call = some input → Forwards binding input request
  | .finished (.ok (.executed result)) => ∀ draft, result.receiptDraft = some draft →
      ∃ input, call = .wrapExecute input ∧ ReportsCall platform binding input draft ∧
        draft.authorization.requestedSpendCents.isSome = true ∧ Covered view draft ∧
        (draft.merchant.isSome = true ↔ MerchantDue binding view)
  | _ => True

abbrev receiptProtocol :
    LocalSpec AgentCall ReceiptView Val PyExc AgentOutcome RunState where
  start := {}
  record := ReceiptView.record (composing platform surroundings) binding
  allowed := ReceiptAllowed platform binding

/-- The routine takes only steps that are allowed to the call. -/
abbrev Reports {α : Type} (call : AgentCall) (program : Routine α) (view : ReceiptView)
    (state : RunState) (post : Except PyExc α → ReceiptView → RunState → Prop) : Prop :=
  program.Follows runMachine (ReceiptView.record (composing platform surroundings) binding)
    (ReceiptAllowed platform binding call) post view state

end Protocol

section Calls

variable {platform : Platform} {surroundings : Agent.Platform} {binding : PaybondRunBinding}
variable {call : AgentCall} {view : ReceiptView} {state : RunState}

/-- What is idle is not noticed. -/
theorem reports_idle {α : Type} {program : Routine α}
    {post : Except PyExc α → ReceiptView → RunState → Prop} (hidle : Idle program)
    (hpost : ∀ outcome resumed, post outcome view resumed) :
    Reports platform surroundings binding call program view state post := by
  refine hidle.follows (fun state op hop => ?_) (fun state op answer hop => ?_)
    (fun _ => trivial) hpost
  · exact ⟨rfl, trivial⟩
  · cases op with
    | host host =>
        cases host with
        | verifyCapability request => exact absurd trivial hop
        | submitEvidence intentId wire idempotencyKey => exact absurd trivial hop
        | submitSandboxEvidence intentId payload operation cents fields idempotencyKey =>
            exact absurd trivial hop
        | _ => exact ⟨rfl, trivial⟩
    | access access =>
        cases access with
        | takeValidCachedAuthorization cacheKey expected => exact absurd trivial hop
        | _ => exact ⟨rfl, trivial⟩

theorem reports_assertSpendAuthorized {request : SpendRequest}
    {post : Except PyExc VerifyCapabilityResult → ReceiptView → RunState → Prop}
    (hforwards : ∀ input, toolInput? call = some input → Forwards binding input request)
    (hok : ∀ result resumed, result.allow = true →
      post (.ok result) { view with granted := some (request, result) } resumed)
    (herror : ∀ exception view' resumed, post (.error exception) view' resumed) :
    Reports platform surroundings binding call (assertSpendAuthorized request) view state post := by
  refine (follows_bind _ _).mpr ((follows_await rfl).mpr ⟨trivial, ?_⟩)
  rintro resumed (exception | result)
  · exact ⟨hforwards, herror _ _ _⟩
  · refine ⟨hforwards, ?_⟩
    dsimp only
    split
    next hallow => exact hok result resumed hallow
    · split
      · exact herror _ _ _
      · exact herror _ _ _

/-- A resolved call asks with the arguments of the call. -/
theorem reports_resolveSideEffectingCall {toolName toolCallId operation : String}
    {input : ToolCallInput} {entry : PaybondSideEffectingToolEntry}
    {post : Except PyExc ResolvedCall → ReceiptView → RunState → Prop}
    (hok : ∀ resolved resumed,
      resolved.authKwargs = buildAuthKwargs binding toolName toolCallId input resolved.operation
        resolved.requestedSpendCents → post (.ok resolved) view resumed)
    (herror : ∀ exception resumed, post (.error exception) view resumed) :
    Reports platform surroundings binding call
      (resolveSideEffectingCall binding toolName toolCallId input entry operation) view state
      post := by
  have hassert : Idle (assertOperationAllowed binding
      (pyStrip ((truthyStr input.operation).getD operation))) := by
    unfold assertOperationAllowed
    split <;> trivial
  refine (follows_bind _ _).mpr (reports_idle hassert ?_)
  rintro (exception | _) resumed
  · exact herror exception resumed
  · dsimp only
    split
    · exact hok _ _ rfl
    · have hspend : ∀ registry : PaybondToolRegistry,
          Idle (resolveSpendCents registry toolName input.arguments) := by
        intro registry
        unfold resolveSpendCents
        split
        · trivial
        · trivial
        · exact avoids_ofExcept _
        · exact idle_host id
      refine (follows_bind _ _).mpr (reports_idle (idle_access id) ?_)
      rintro (exception | registry) resumed'
      · exact herror exception resumed'
      refine (follows_bind _ _).mpr (reports_idle (hspend registry) ?_)
      rintro (exception | cents) resumed''
      · exact herror exception resumed''
      · exact hok _ _ rfl

/-- What a failed submission raises. -/
def submitFailure (toolResult : PyValue) (exception : PyExc) :
    Routine PaybondInterceptEvidenceResult :=
  match exception with
  | .evidenceSubmit _ _ => Agent.raise exception
  | _ =>
      if exception.isException then
        Agent.raise (.evidenceSubmit
          ((truthyStr (some exception.str)).getD "auto-evidence submission failed") toolResult)
      else Agent.raise exception

/-- The submission leaves its evidence with the call. -/
theorem reports_submitAutoEvidence {entry : PaybondSideEffectingToolEntry}
    {ctx : PaybondToolCallContext} {cents : Option Int} {toolResult : PyValue}
    {auth : VerifyCapabilityResult}
    {post : Except PyExc PaybondInterceptEvidenceResult → ReceiptView → RunState → Prop}
    (hok : ∀ evidence resumed,
      post (.ok evidence) { view with evidence := evidence :: view.evidence } resumed)
    (herror : ∀ exception view' resumed, post (.error exception) view' resumed) :
    Reports platform surroundings binding call
      (submitAutoEvidence (composing platform surroundings) binding entry ctx cents toolResult auth)
      view state post := by
  refine (follows_bind _ _).mpr ((follows_tryExcept _ _).mpr (reports_idle (idle_host id) ?_))
  rintro (exception | payload) resumed
  · dsimp only
    split <;> exact herror _ _ _
  have hfail : ∀ (exception : PyExc) (view : ReceiptView) (state : RunState),
      Reports platform surroundings binding call (submitFailure toolResult exception) view state
        post := by
    intro exception view state
    unfold submitFailure
    split
    · exact herror _ _ _
    · split <;> exact herror _ _ _
  refine (follows_tryExcept _ _).mpr ?_
  unfold submitEvidence
  dsimp only
  split
  · refine (follows_bind _ _).mpr ((follows_await rfl).mpr ⟨trivial, ?_⟩)
    rintro resumed (exception | result)
    · exact ⟨trivial, hfail _ _ _⟩
    · exact ⟨trivial, hok _ _⟩
  · split
    · have hmissing := hfail (.runtimeError ("production agent run bind requires " ++
        "attach.production_evidence for auto-evidence submission")) view resumed
      exact hmissing
    · refine (follows_bind _ _).mpr (reports_idle (idle_host id) ?_)
      rintro (exception | wire) resumed
      · exact hfail _ _ _
      refine (follows_bind _ _).mpr ((follows_await rfl).mpr ⟨trivial, ?_⟩)
      rintro resumed (exception | result)
      · exact ⟨trivial, hfail _ _ _⟩
      · exact ⟨trivial, hok _ _⟩

/-- The cached authorization was stored for the amount of the call; a fresh one was asked for
it. -/
theorem reports_obtainAuthorization {toolName toolCallId : String} {input : ToolCallInput}
    {resolved : ResolvedCall} {pinnedDigest : Option String}
    {post : Except PyExc AuthorizedCall → ReceiptView → RunState → Prop}
    (htaken : view.taken = none) (hinput : toolInput? call = some input)
    (hresolved : resolved.authKwargs =
      buildAuthKwargs binding toolName toolCallId input resolved.operation
        resolved.requestedSpendCents)
    (hok : ∀ authorized view' resumed, view'.evidence = view.evidence →
      (∀ draft : AgentReceiptDraft,
        authorized.auth.decisionId = some draft.authorization.decisionId →
        draft.authorization.requestedSpendCents = resolved.requestedSpendCents →
        Covered view' draft) → post (.ok authorized) view' resumed)
    (herror : ∀ exception view' resumed, post (.error exception) view' resumed) :
    Reports platform surroundings binding call
      (obtainAuthorization binding toolName toolCallId resolved pinnedDigest) view state post := by
  refine (follows_bind _ _).mpr (follows_access.mpr fun elapsed => ⟨trivial, ?_⟩)
  dsimp only
  cases htake : ((Access.takeValidCachedAuthorization
      (authorizationCacheKey toolCallId resolved.operation)
      { operation := resolved.operation
        requestedSpendCents := resolved.requestedSpendCents
        toolName }).run elapsed state).1 with
  | some entry =>
      refine hok _ _ _ rfl fun draft hdecision hspend => ?_
      obtain ⟨-, -, hmatches⟩ := takeValidCachedAuthorization_eq_some.mp htake
      exact ⟨hdecision, hmatches.2.1.trans hspend.symm⟩
  | none =>
      refine (follows_bind _ _).mpr (reports_assertSpendAuthorized (fun other hother => ?_)
        (fun auth resumed hallow => ?_) fun exception view' resumed => herror _ _ _)
      · obtain rfl := Option.some.inj (hinput.symm.trans hother)
        rw [hresolved]
        exact forwards_buildAuthKwargs _ _ _ _ _
      · refine (follows_bind _ _).mpr (follows_access.mpr fun _ => ⟨trivial, ?_⟩)
        refine (follows_bind _ _).mpr (reports_idle (idle_host id) ?_)
        rintro (exception | _) resumed'
        · exact herror _ _ _
        · refine hok _ _ _ rfl fun draft hdecision hspend => ?_
          have hcents : resolved.authKwargs.requestedSpendCents =
              draft.authorization.requestedSpendCents.getD 0 := by
            rw [hresolved, hspend]
            rfl
          exact covered_of_granted htaken rfl hallow hdecision hcents

/-- A draft reports the arguments of its call, with an amount and the decision. -/
theorem reports_buildReceiptDraft {receipt : ReceiptInput} {input : ToolCallInput}
    {post : Except PyExc (Option AgentReceiptDraft) → ReceiptView → RunState → Prop}
    (hsubject : receipt.agentSubject = callSubject binding input)
    (hcurrency : receipt.currency = input.currency) (hvendor : receipt.vendorId = input.vendorId)
    (hpost : ∀ receiptDraft resumed,
      (∀ draft, receiptDraft = some draft → ReportsCall platform binding input draft ∧
        draft.authorization.requestedSpendCents.isSome = true ∧
        draft.authorization.requestedSpendCents = receipt.requestedSpendCents ∧
        receipt.auth.decisionId = some draft.authorization.decisionId ∧
        (draft.merchant.isSome = true ↔ HasPayee binding ∧ HasDigest receipt.evidence)) →
      post (.ok receiptDraft) view resumed) :
    Reports platform surroundings binding call
      (buildReceiptDraft (composing platform surroundings) binding receipt) view state post := by
  unfold buildReceiptDraft
  split
  · exact hpost _ _ fun _ h => nomatch h
  split
  · exact hpost _ _ fun _ h => nomatch h
  next agentContext hbound _ context hcontext =>
    refine (follows_bind _ _).mpr (follows_access.mpr fun completedAtMs => ⟨trivial, ?_⟩)
    refine hpost _ _ fun draft hdraft => ?_
    have hcompose := except_mem_toOption.mp hdraft
    obtain ⟨hreports, hspend, hdecision, hmerchant⟩ := reportsCall_of_composeReceiptDraft hbound
      hcontext hsubject hcurrency hvendor hcompose
    obtain ⟨normalized, hnormalizes, -⟩ := (composed_of_composeReceiptDraft hcompose).normalizes
    exact ⟨hreports, hnormalizes.requestedSpendCents, hspend, hdecision, hmerchant⟩

/-- What a finished execution drafted. -/
def Drafted (platform : Platform) (binding : PaybondRunBinding) (input : ToolCallInput)
    (outcome : Except PyExc PaybondInterceptWrapExecuteResult) (view : ReceiptView) : Prop :=
  ∀ result, outcome = .ok result → ∀ draft, result.receiptDraft = some draft →
    ReportsCall platform binding input draft ∧
      draft.authorization.requestedSpendCents.isSome = true ∧ Covered view draft ∧
      (draft.merchant.isSome = true ↔ MerchantDue binding view)

theorem drafted_error {input : ToolCallInput} {exception : PyExc} {view : ReceiptView} :
    Drafted platform binding input (.error exception) view :=
  fun _ h => nomatch h

theorem reports_reportExecution {toolName toolCallId : String} {input : ToolCallInput}
    {resolved : ResolvedCall} {authorized : AuthorizedCall} {startedAtMs : ℕ} {toolResult : PyValue}
    (hresolved : resolved.authKwargs =
      buildAuthKwargs binding toolName toolCallId input resolved.operation
        resolved.requestedSpendCents)
    (hevidence : view.evidence = [])
    (hcovered : ∀ draft : AgentReceiptDraft,
      authorized.auth.decisionId = some draft.authorization.decisionId →
      draft.authorization.requestedSpendCents = resolved.requestedSpendCents →
      Covered view draft) :
    Reports platform surroundings binding call
      (reportExecution (composing platform surroundings) binding toolName toolCallId input resolved
        authorized startedAtMs toolResult) view state
      fun outcome view' _ => Drafted platform binding input outcome view' := by
  refine (follows_bind _ _).mpr (reports_idle (idle_resolveToolExternalAttestations _ _ _) ?_)
  rintro (exception | attestations) resumed
  · exact drafted_error
  refine (follows_bind _ _).mpr (reports_submitAutoEvidence (fun evidence resumed => ?_)
    fun exception _ _ => drafted_error)
  refine (follows_bind _ _).mpr (reports_idle (idle_host id) ?_)
  rintro (exception | _) resumed
  · exact drafted_error
  have hforwards : Forwards binding input resolved.authKwargs := by
    rw [hresolved]
    exact forwards_buildAuthKwargs _ _ _ _ _
  refine (follows_bind _ _).mpr (reports_buildReceiptDraft hforwards.agentSubject
    hforwards.currency hforwards.vendorId fun receiptDraft resumed hdraft => ?_)
  rintro _ ⟨⟩ draft hsome
  obtain ⟨hreports, hcents, hspend, hdecision, hmerchant⟩ := hdraft draft hsome
  refine ⟨hreports, hcents, hcovered draft hdecision hspend, ?_⟩
  rw [hmerchant, MerchantDue, hevidence, List.exists_mem_cons_iff]
  simp

theorem reports_wrapSideEffecting {toolName toolCallId operation : String} {input : ToolCallInput}
    {entry : PaybondSideEffectingToolEntry} {pinnedDigest : Option String}
    (htaken : view.taken = none) (hevidence : view.evidence = []) :
    Reports platform surroundings binding (.wrapExecute input)
      (wrapSideEffecting (composing platform surroundings) binding toolName toolCallId input entry
        operation pinnedDigest) view state
      fun outcome view' _ => Drafted platform binding input outcome view' := by
  refine (follows_bind _ _).mpr (reports_resolveSideEffectingCall
    (fun resolved resumed hresolved => ?_) fun exception _ => drafted_error)
  refine (follows_bind _ _).mpr (reports_idle (idle_host id) ?_)
  rintro (exception | _) resumed'
  · exact drafted_error
  refine (follows_bind _ _).mpr (reports_obtainAuthorization htaken rfl hresolved
    (fun authorized view' resumed'' hkept hcovered => ?_) fun exception _ _ => drafted_error)
  refine (follows_bind _ _).mpr (reports_idle (idle_access id) ?_)
  rintro (exception | startedAt) _
  · exact drafted_error
  refine (follows_bind _ _).mpr (reports_idle (idle_access id) ?_)
  rintro (exception | startedAtMs) _
  · exact drafted_error
  refine (follows_bind _ _).mpr (reports_idle (idle_executeAndFinalize _ _ _ _ _) ?_)
  rintro (exception | toolResult) _
  · exact drafted_error
  · exact reports_reportExecution hresolved (hkept.trans hevidence) hcovered

/-- A call in flight ends as its body does. -/
theorem reports_inFlight {α : Type} {input : ToolCallInput}
    {body : Option String → Routine α} {post : Except PyExc α → ReceiptView → RunState → Prop}
    (hbody : ∀ pinnedDigest state, Reports platform surroundings binding call (body pinnedDigest) view state
      fun outcome view' _ => ∀ resumed, post outcome view' resumed)
    (herror : ∀ exception view' resumed, post (.error exception) view' resumed) :
    Reports platform surroundings binding call
      (requireToolCall input >>= fun _ => access .beginInFlight >>= fun pinnedDigest =>
        tryFinally (body pinnedDigest) (access .endInFlight)) view state post := by
  refine (follows_bind _ _).mpr (reports_idle (idle_requireToolCall input) ?_)
  rintro (exception | _) resumed
  · exact herror _ _ _
  refine (follows_bind _ _).mpr (reports_idle (idle_access id) ?_)
  rintro (exception | pinnedDigest) resumed
  · exact herror _ _ _
  refine (follows_tryFinally _ _).mpr ((hbody pinnedDigest resumed).weaken_post ?_)
  intro outcome view' resumed' hpost
  refine reports_idle (idle_access id) ?_
  rintro (exception | _) resumed''
  · exact herror _ _ _
  · exact hpost _

theorem reports_wrapInFlight {input : ToolCallInput} {pinnedDigest : Option String}
    (htaken : view.taken = none) (hevidence : view.evidence = []) :
    Reports platform surroundings binding (.wrapExecute input)
      (wrapInFlight (composing platform surroundings) binding input pinnedDigest) view state
      fun outcome view' _ => Drafted platform binding input outcome view' := by
  refine (follows_bind _ _).mpr (reports_idle (idle_access id) ?_)
  rintro (exception | registry) resumed
  · exact drafted_error
  dsimp only
  split
  · refine (follows_bind _ _).mpr (reports_idle (idle_maybeAwait _) ?_)
    rintro (exception | out) _
    · exact drafted_error
    · rintro _ ⟨⟩ _ hdraft
      cases hdraft
  · exact drafted_error
  · exact reports_wrapSideEffecting htaken hevidence

/-- What an execution drafts is what it may report. -/
theorem wrapExecute_reports (input : ToolCallInput) :
    (program (composing platform surroundings) binding (.wrapExecute input)).Obeys runMachine
      (receiptProtocol platform surroundings binding) (.wrapExecute input) := by
  intro state
  refine (follows_bind _ _).mpr (reports_inFlight (fun pinnedDigest state =>
    (reports_wrapInFlight rfl rfl).weaken_post ?_) fun _ _ _ => trivial)
  rintro (exception | result) view' _ hdrafted resumed
  · trivial
  · intro draft hdraft
    exact ⟨input, rfl, hdrafted result rfl draft hdraft⟩

theorem reports_authorizeResolved {input : ToolCallInput} {toolName toolCallId : String}
    {resolved : ResolvedCall} {pinnedDigest : Option String}
    (hresolved : resolved.authKwargs =
      buildAuthKwargs binding toolName toolCallId input resolved.operation
        resolved.requestedSpendCents) :
    Reports platform surroundings binding (.authorizeToolCall input)
      (authorizeResolved binding toolName toolCallId resolved pinnedDigest) view state
      fun _ _ _ => True := by
  refine (follows_bind _ _).mpr (reports_idle (idle_host id) ?_)
  rintro (exception | _) resumed
  · trivial
  have hforwards : ∀ other, toolInput? (.authorizeToolCall input) = some other →
      Forwards binding other resolved.authKwargs := by
    intro other hother
    obtain rfl := Option.some.inj hother
    rw [hresolved]
    exact forwards_buildAuthKwargs _ _ _ _ _
  refine (follows_bind _ _).mpr ((follows_tryExcept _ _).mpr ((follows_bind _ _).mpr
    (reports_assertSpendAuthorized hforwards (fun auth _ _ => ?_) fun exception view' _ => ?_)))
  · refine (follows_bind _ _).mpr (reports_idle (idle_cacheAuthorization _ _ _ _ _) ?_)
    rintro (exception | _) _
    · trivial
    refine (follows_bind _ _).mpr (reports_idle (idle_host id) ?_)
    rintro (exception | _) _ <;> trivial
  · refine (follows_bind _ _).mpr (reports_idle (idle_decideRefusal _ _ _) ?_)
    rintro (failure | decision) _ <;> trivial

theorem reports_authorizeInFlight {input : ToolCallInput} {pinnedDigest : Option String} :
    Reports platform surroundings binding (.authorizeToolCall input)
      (authorizeInFlight binding input pinnedDigest) view state fun _ _ _ => True := by
  refine (follows_bind _ _).mpr (reports_idle (idle_access id) ?_)
  rintro (exception | registry) resumed
  · trivial
  dsimp only
  split
  · trivial
  · trivial
  · refine (follows_bind _ _).mpr ((follows_tryExcept _ _).mpr ((follows_bind _ _).mpr
      (reports_resolveSideEffectingCall (fun resolved _ hresolved => ?_) fun exception _ => ?_)))
    · exact reports_authorizeResolved hresolved
    · dsimp only
      split <;> trivial

theorem authorizeToolCall_reports (input : ToolCallInput) :
    (program (composing platform surroundings) binding (.authorizeToolCall input)).Obeys runMachine
      (receiptProtocol platform surroundings binding) (.authorizeToolCall input) := by
  intro state
  refine (follows_bind _ _).mpr (reports_inFlight (fun pinnedDigest state =>
    reports_authorizeInFlight.weaken_post ?_) fun _ _ _ => trivial)
  rintro (exception | decision) view' _ _ _ <;> trivial

/-- A call that is not the interceptor's may do anything but end as an execution. -/
theorem reports_other {α : Type} {program : Routine α} (hcall : toolInput? call = none)
    {post : Except PyExc α → ReceiptView → RunState → Prop}
    (hpost : ∀ outcome view' resumed, post outcome view' resumed) :
    Reports platform surroundings binding call program view state post := by
  have hcompleted : ∀ view state op answer,
      ReceiptAllowed platform binding call view ⟨state, .completed op answer⟩ := by
    intro view state op answer
    cases op with
    | access access => trivial
    | host host =>
        cases host with
        | verifyCapability request =>
            intro input hinput
            cases hcall.symm.trans hinput
        | _ => trivial
  induction program generalizing view state with
  | ret value => exact hpost _ _ _
  | raise exception => exact hpost _ _ _
  | cut => trivial
  | perform op next ih =>
      cases hsuspends : runMachine.suspends op with
      | true =>
          exact (follows_perform_await hsuspends).mpr
            ⟨trivial, fun resumed choice => ⟨hcompleted _ _ _ _, ih _⟩⟩
      | false =>
          exact (follows_perform_sync hsuspends).mpr fun choice => ⟨hcompleted _ _ _ _, ih _⟩

theorem other_obeys {α : Type} {method : Routine α} (outcome : α → AgentOutcome)
    (hcall : toolInput? call = none) (hother : ∀ value result, outcome value ≠ .executed result) :
    (outcome <$> method).Obeys runMachine (receiptProtocol platform surroundings binding) call := by
  intro state
  refine (follows_bind _ _).mpr (reports_other hcall fun ended view state => ?_)
  cases ended with
  | error exception => trivial
  | ok value =>
    have hended := hother value
    change ReceiptAllowed platform binding call view ⟨state, .finished (.ok (outcome value))⟩
    cases houtcome : outcome value with
    | executed result => exact (hended result houtcome).elim
    | _ => trivial

theorem program_reports (platform : Platform) (surroundings : Agent.Platform)
    (binding : PaybondRunBinding) (call : AgentCall) :
    (program (composing platform surroundings) binding call).Obeys runMachine
      (receiptProtocol platform surroundings binding) call := by
  cases call with
  | wrapExecute input => exact wrapExecute_reports input
  | authorizeToolCall input => exact authorizeToolCall_reports input
  | guardTool request =>
      rw [program]
      generalize guardTool request = method
      exact other_obeys .guarded rfl (by simp)
  | awrapToolCallCapability request =>
      rw [program]
      generalize awrapToolCallCapability request = method
      exact other_obeys .capability rfl (by simp)
  | reloadPolicy options bound => exact other_obeys .reloaded rfl (by simp)
  | reloadPolicyOnHandle options allowedTools bound => exact other_obeys .reloaded rfl (by simp)
  | triggerReload poll trigger bound => exact other_obeys (fun _ => .triggered) rfl (by simp)

end Calls

/-! ## Runs -/

/-- The task takes an authorization that the other task stored. -/
def TakesFrom (trace : List AgentEntry) (task source : ℕ) : Prop :=
  ∃ cacheKey entry, TakesCached trace task cacheKey entry ∧ Stores trace source cacheKey entry

/-- The request with which Harbor allowed what the task executes: its own, or that of the task
whose stored authorization it takes. -/
structure Authorizes (trace : List AgentEntry) (task : ℕ) (verified : AgentEntry)
    (request : SpendRequest) (answer : VerifyCapabilityResult) : Prop where
  mem : verified ∈ trace
  event : verified.event = .completed (.host (.verifyCapability request)) (.ok answer)
  allow : answer.allow = true
  source : verified.task = task ∨ TakesFrom trace task verified.task

/-- The receipt of the task has a merchant section: a payee is bound, and the evidence of the
task was accepted with the digest of its payload. -/
def HasMerchant (composed : Agent.Platform) (binding : PaybondRunBinding)
    (trace : List AgentEntry) (task : ℕ) : Prop :=
  HasPayee binding ∧ Occurs trace task (Digests composed binding)

section Runs

variable {platform : Platform} {surroundings : Agent.Platform} {binding : PaybondRunBinding}
variable {init state : RunState} {trace : List AgentEntry} {task : ℕ}

/-- What a task takes from the cache, Harbor had allowed to the task that stored it. -/
theorem exists_source
    (hbehaves : runMachine.Behaves
      (agentProtocol (composing platform surroundings) binding) init trace state)
    (hempty : init.authorizedCalls = .empty) {cacheKey : String} {entry : CachedAuthorizationEntry}
    (htakes : TakesCached trace task cacheKey entry) :
    ∃ verified request, Authorizes trace task verified request entry.auth ∧
      request.requestedSpendCents = entry.requestedSpendCents.getD 0 ∧
      ∃ input, verified.call = .authorizeToolCall input := by
  obtain ⟨owner, source, hledger, -⟩ := exists_ledger hbehaves hempty
  have hcached := (cached_iff_takesCached hbehaves).mpr htakes
  have hstored := hledger.left_source task _ hcached
  have hstores := stores_of_stored hbehaves hstored
  obtain ⟨first, store, second, htrace, htask, hnone, hsome⟩ :=
    callRecorder.exists_step_of_view
      (p := fun view => view.stored = some (cacheKey, entry)) (fun h => nomatch h) hstored
  rcases CallView.record_stored _ hsome with hsame | ⟨answer, hevent⟩
  · exact absurd hsame hnone
  obtain ⟨-, -, -, hallowed⟩ := hbehaves.split htrace
  obtain ⟨⟨before, event⟩, storeTask, call⟩ := store
  obtain rfl : event = _ := hevent
  obtain rfl : storeTask = source task := htask
  obtain ⟨request, toolCallId, hgrant, -, -, hrequest⟩ := StoreAllowed.granted hallowed
  obtain ⟨hallow, verified, hverified, hsource, hasked⟩ := occurs_of_grant hgrant
  have hmem : verified ∈ trace := by
    rw [htrace]
    exact List.mem_append_left _ hverified
  refine ⟨verified, request, ⟨hmem, hasked, hallow, .inr ⟨cacheKey, entry, htakes, ?_⟩⟩,
    hrequest.requestedSpendCents_eq, ?_⟩
  · rwa [hsource]
  · obtain ⟨other, hother, hotherTask, hcall⟩ := hstores.call
    rwa [hbehaves.call_eq hmem hother (hsource.trans hotherTask.symm)]

/-! ### What the view of a call says of the run -/

theorem ReceiptView.record_granted {view : ReceiptView} {step : AgentStep}
    {granted : SpendRequest × VerifyCapabilityResult}
    (hgranted : (view.record (composing platform surroundings) binding step).granted =
      some granted) :
    view.granted = some granted ∨
      step.event = .completed (.host (.verifyCapability granted.1)) (.ok granted.2) := by
  unfold ReceiptView.record at hgranted
  split at hgranted
  next hevent => exact .inr (by rw [hevent, ← Option.some.inj hgranted])
  next => exact .inl hgranted
  next => exact .inl hgranted

theorem ReceiptView.record_taken {view : ReceiptView} {step : AgentStep}
    {cacheKey : String} {entry : CachedAuthorizationEntry}
    (htaken : (view.record (composing platform surroundings) binding step).taken =
      some (cacheKey, entry)) :
    view.taken = some (cacheKey, entry) ∨ ∃ expected, step.event = .completed
      (.access (.takeValidCachedAuthorization cacheKey expected)) (.ok (some entry)) := by
  unfold ReceiptView.record at htaken
  split at htaken
  next => exact .inl htaken
  next expected _ hevent =>
    cases htaken
    exact .inr ⟨expected, hevent⟩
  next => exact .inl htaken

theorem ReceiptView.record_evidence (view : ReceiptView) (step : AgentStep) :
    (∃ evidence ∈ (view.record (composing platform surroundings) binding step).evidence,
        HasDigest evidence) ↔
      (∃ evidence ∈ view.evidence, HasDigest evidence) ∨
        Digests (composing platform surroundings) binding step.event := by
  unfold ReceiptView.record
  split
  next hevent => simp [Digests, hevent, evidence?]
  next hevent => simp [Digests, hevent, evidence?]
  next => simp [Digests, or_and_right, exists_or, or_comm]

theorem merchantDue_iff :
    MerchantDue binding ((receiptProtocol platform surroundings binding).view trace task) ↔
      HasMerchant (composing platform surroundings) binding trace task := by
  refine and_congr_right fun _ => ?_
  induction trace using List.reverseRecOn with
  | nil => simp [Occurs]
  | append_singleton trace last ih =>
      rw [occurs_snoc]
      by_cases htask : last.task = task
      · rw [Recorder.view_snoc_self _ htask, ← ih]
        simp only [htask, true_and]
        exact ReceiptView.record_evidence _ _
      · rw [Recorder.view_snoc_other _ htask, ← ih]
        simp [htask]

section Finished

variable {report : AgentEntry} {first second : List AgentEntry} {executed : ToolCallInput}
variable {draft : AgentReceiptDraft}

/-- What covers a draft is an answer of Harbor that authorizes the task, to a request for the
amount of the draft that hands on what its call names. -/
theorem exists_authorizes
    (hbehaves : runMachine.Behaves
      (agentProtocol (composing platform surroundings) binding) init trace state)
    (hreports : runMachine.Behaves (receiptProtocol platform surroundings binding) init trace state)
    (hempty : init.authorizedCalls = .empty)
    (hcall : ∀ earlier ∈ trace, earlier.task = task → earlier.call = .wrapExecute executed)
    (hcovered : Covered ((receiptProtocol platform surroundings binding).view trace task) draft) :
    ∃ verified request answer asked, Authorizes trace task verified request answer ∧
      answer.decisionId = some draft.authorization.decisionId ∧
      request.requestedSpendCents = draft.authorization.requestedSpendCents.getD 0 ∧
      toolInput? verified.call = some asked ∧ Forwards binding asked request := by
  -- a request of the interceptor hands on what its call names
  have hforwards : ∀ verified ∈ trace, ∀ request answer asked,
      verified.event = .completed (.host (.verifyCapability request)) (.ok answer) →
      toolInput? verified.call = some asked → Forwards binding asked request := by
    intro verified hverified request answer asked hevent hasked
    obtain ⟨before, after, -, hallowed⟩ := hreports.allowed_of_mem hverified
    obtain ⟨⟨shared, event⟩, verifiedTask, call⟩ := verified
    obtain rfl : event = _ := hevent
    exact hallowed asked hasked
  unfold Covered at hcovered
  split at hcovered
  next cacheKey entry htaken =>
    obtain ⟨hdecision, hspend⟩ := hcovered
    have htakes : TakesCached trace task cacheKey entry := by
      obtain ⟨before, step, after, rfl, htask, hnot, htakes⟩ := Recorder.exists_step_of_view _
        (p := fun view : ReceiptView => view.taken = some (cacheKey, entry)) (by rintro ⟨⟩)
        htaken
      rcases ReceiptView.record_taken htakes with hsame | hevent
      · exact absurd hsame hnot
      · exact ⟨step, List.mem_append_right _ List.mem_cons_self, htask, hevent⟩
    obtain ⟨verified, request, hauthorizes, hcents, asked, hasked⟩ :=
      exists_source hbehaves hempty htakes
    have hinput : toolInput? verified.call = some asked := by
      rw [hasked]
      rfl
    refine ⟨verified, request, entry.auth, asked, hauthorizes, hdecision, ?_, hinput, ?_⟩
    · rw [hcents, hspend]
    · exact hforwards verified hauthorizes.mem request entry.auth asked hauthorizes.event hinput
  next htaken =>
    obtain ⟨request, answer, hgranted, hallow, hdecision, hcents⟩ := hcovered
    obtain ⟨before, verified, after, htrace, htask, hnot, hgrants⟩ := Recorder.exists_step_of_view _
      (p := fun view : ReceiptView => view.granted = some (request, answer)) (by rintro ⟨⟩)
      hgranted
    rcases ReceiptView.record_granted hgrants with hsame | hevent
    · exact absurd hsame hnot
    have hmem : verified ∈ trace := by
      rw [htrace]
      exact List.mem_append_right _ List.mem_cons_self
    have hinput : toolInput? verified.call = some executed := by
      rw [hcall verified hmem htask]
      rfl
    exact ⟨verified, request, answer, executed, ⟨hmem, hevent, hallow, .inl htask⟩, hdecision,
      hcents, hinput, hforwards verified hmem request answer executed hevent hinput⟩

/-- In every run the receipt of an execution reports the request with which Harbor allowed it
exactly when the call that asked and the call that executes name the same parties. -/
theorem reportsRequest_iff_sameParties {registry : PaybondToolRegistry}
    {snapshot : Option PaybondPolicySnapshot} {actions : List (Action AgentCall runMachine)}
    {result : PaybondInterceptWrapExecuteResult}
    (htrace : (runAgent (composing platform surroundings) binding (.bind registry snapshot)
      actions).trace = first ++ report :: second)
    (hreport : report.event = .finished (.ok (.executed result)))
    (hdraft : result.receiptDraft = some draft) :
    ∃ executed asked verified request answer,
      report.call = .wrapExecute executed ∧
      Authorizes first report.task verified request answer ∧
      answer.decisionId = some draft.authorization.decisionId ∧
      toolInput? verified.call = some asked ∧
      (ReportsRequest platform draft request ↔ SameParties platform binding asked executed
        (HasMerchant (composing platform surroundings) binding first report.task)) := by
  have hagent := (runAgent_sound (composing platform surroundings) binding
    (.bind registry snapshot) actions).behaves
  have hreceipts := (Loop.run_sound (program_reports platform surroundings binding)
    (.bind registry snapshot) actions).behaves
  obtain ⟨hfirst, -⟩ := hagent.split htrace
  obtain ⟨hfirstReceipts, hcalls, -, hallowed⟩ := hreceipts.split htrace
  obtain ⟨⟨before, event⟩, task, call⟩ := report
  obtain rfl : event = _ := hreport
  obtain ⟨executed, hcall, hreports, hamount, hcovered, hmerchant⟩ := hallowed draft hdraft
  obtain rfl : call = _ := hcall
  obtain ⟨verified, request, answer, asked, hauthorizes, hdecision, hcents, hasked, hforwards⟩ :=
    exists_authorizes hfirst hfirstReceipts rfl hcalls hcovered
  refine ⟨executed, asked, verified, request, answer, rfl, hauthorizes, hdecision, hasked, ?_⟩
  obtain ⟨cents, hspend⟩ := Option.isSome_iff_exists.mp hamount
  refine reportsRequest_iff hforwards hreports ?_ (hmerchant.trans merchantDue_iff)
  rw [hcents, hspend]
  rfl

end Finished

end Runs

/-! ## A booking at another hotel -/

def registryBooked : PaybondToolRegistry where
  defaultDeny := true
  sideEffecting := .ofList [("travel.book_hotel", inputDrafted.entry)]

def snapshotBooked : PaybondPolicySnapshot where
  digest := "sha256:44136fa355b3678a1146ad16f7e8649e94fb4fc21fe77e8310c060f61caaff8a"
  registry := registryBooked
  document := { name := "travel", defaultDeny := true, tools := .empty }

/-- Harbor allows the booking and accepts its evidence. -/
def acceptingHost : (call : HostCall) → Except PyExc call.Answer
  | .verifyCapability _ => .ok inputDrafted.auth
  | .execute _ => .ok (.value (.dict []))
  | .signEvidence _ payload => .ok payload
  | .submitEvidence _ _ _ =>
      .ok (.dict [("predicate_passed", .bool true), ("payload_digest",
        .str "e3b0c44298fc1c149afbf4c8996fb92427ae41e4649b934ca495991b7852b855")])
  | call => bookingHost false call

/-- The booking of `call-1` with a vendor. -/
def bookFrom (vendorId : String) : ToolCallInput :=
  { bookHotel "call-1" with
    arguments := .dict []
    vendorId := some vendorId
    requestedSpendCents := some 15000 }

/-- The booking is authorized with one hotel, and executed with another. -/
def rebookedActions : List (Action AgentCall runMachine) :=
  .start (.authorizeToolCall (bookFrom "hotel-1")) (hostChoices acceptingHost) ::
  .resume 0 (hostChoices acceptingHost) ::
  .start (.wrapExecute (bookFrom "hotel-2")) (hostChoices acceptingHost) ::
  List.replicate 2 (.resume 1 (hostChoices acceptingHost))

def rebookedTrace : List AgentEntry :=
  (runAgent (composing platformDrafted surroundingsDrafted) bindingDrafted
    (.bind registryBooked (some snapshotBooked)) rebookedActions).trace

def draft? : AgentEvent → Option AgentReceiptDraft
  | .finished (.ok (.executed result)) => result.receiptDraft
  | _ => none

def request? : AgentEvent → Option SpendRequest
  | .completed (.host (.verifyCapability request)) _ => some request
  | _ => none

theorem finished_of_draft? {event : AgentEvent} {draft : AgentReceiptDraft}
    (hdraft : draft? event = some draft) :
    ∃ result, event = .finished (.ok (.executed result)) ∧ result.receiptDraft = some draft := by
  unfold draft? at hdraft
  split at hdraft
  next result => exact ⟨result, rfl, hdraft⟩
  next => cases hdraft

/-- The draft of the booking at the second hotel, without its digest. -/
def draftRebooked : AgentReceiptDraft :=
  { draftDrafted with
    execution := { draftDrafted.execution with durationMs := 0 }
    merchant := some { payeeDid := "did:web:hotel.example", vendorId := some "hotel-2" } }

theorem inForm_draftRebooked : DraftInForm platformDrafted draftRebooked := by
  have laws : platformDrafted.LowerLaws := lowerLaws_terminal
  have hdrafted := inForm_draftDrafted
  have hexecution := hdrafted.execution
  refine ⟨hdrafted.tenantId, hdrafted.authorization, hdrafted.intentId,
    hdrafted.externalAttestations, hdrafted.harborState,
    ⟨hexecution.toolCallId, hexecution.argumentsDigest, hexecution.runId, hexecution.toolName,
      hexecution.operation, hexecution.startedAt, hexecution.completedAt,
      hexecution.resultDigest⟩, hdrafted.issuedAt, ?_, hdrafted.evidence, hdrafted.receiptId⟩
  rintro _ ⟨⟩
  refine ⟨by decide, ?_⟩
  rintro _ ⟨⟩ -
  rw [Platform.stripLower_scopeToken laws ⟨"hotel-2", by decide⟩]
  decide

/-- All fields are compared: the attestations are none. -/
def IsRebooked (draft : AgentReceiptDraft) : Prop :=
  draft.externalAttestations.isEmpty = true ∧
    draft.schemaVersion = draftRebooked.schemaVersion ∧ draft.kind = draftRebooked.kind ∧
    draft.receiptVersion = draftRebooked.receiptVersion ∧ draft.scope = draftRebooked.scope ∧
    draft.receiptId = draftRebooked.receiptId ∧ draft.issuedAt = draftRebooked.issuedAt ∧
    draft.tenantId = draftRebooked.tenantId ∧
    draft.authorization = draftRebooked.authorization ∧
    draft.execution = draftRebooked.execution ∧ draft.outcome = draftRebooked.outcome ∧
    draft.intentId = draftRebooked.intentId ∧
    draft.signingAlgorithm = draftRebooked.signingAlgorithm ∧
    draft.messageDigestSha256Hex = draftRebooked.messageDigestSha256Hex ∧
    draft.signingPublicKeyEd25519Hex = draftRebooked.signingPublicKeyEd25519Hex ∧
    draft.ed25519SignatureHex = draftRebooked.ed25519SignatureHex ∧
    draft.merchant = draftRebooked.merchant ∧ draft.evidence = draftRebooked.evidence

instance : DecidablePred IsRebooked := fun _ => inferInstanceAs (Decidable (_ ∧ _))

theorem eq_of_isRebooked {draft : AgentReceiptDraft} (hdraft : IsRebooked draft) :
    draft = draftRebooked := by
  obtain ⟨hattestations, h1, h2, h3, h4, h5, h6, h7, h8, h9, h10, h11, h12, h13, h14, h15, h16,
    h17⟩ := hdraft
  have hnone := List.isEmpty_iff.mp hattestations
  cases draft
  dsimp only at *
  subst_vars
  rfl

/-- The normalizer does not have to be run on a draft that is known to be in form. -/
def composingRebooked : Agent.Platform :=
  { composing platformDrafted surroundingsDrafted with
    agentReceiptMessageDigestSha256Hex := fun draft =>
      let digest := agentReceiptMessageDigestSha256Hex platformDrafted (draftMapping draftRebooked)
      if IsRebooked draft then .ok (digest.toOption.getD "")
      else agentReceiptMessageDigestSha256Hex platformDrafted (draftMapping draft) }

theorem composing_eq_rebooked :
    composing platformDrafted surroundingsDrafted = composingRebooked := by
  have laws : platformDrafted.LowerLaws := lowerLaws_terminal
  obtain ⟨normalized, hnormalizes⟩ := inForm_draftRebooked.normalizes laws hexDigests_drafted
    ⟨rfl, rfl, rfl, rfl, rfl, rfl, rfl⟩
  have hdigest : ∃ digest, agentReceiptMessageDigestSha256Hex platformDrafted
      (draftMapping draftRebooked) = .ok digest := by
    rw [agentReceiptMessageDigestSha256Hex, normalizeReceipt_eq_ok.mpr hnormalizes]
    exact ⟨_, rfl⟩
  obtain ⟨digest, hdigest⟩ := hdigest
  have hsame : (composing platformDrafted surroundingsDrafted).agentReceiptMessageDigestSha256Hex =
      composingRebooked.agentReceiptMessageDigestSha256Hex := by
    funext draft
    by_cases hdraft : IsRebooked draft
    · dsimp only [composingRebooked, composing]
      rw [if_pos hdraft, eq_of_isRebooked hdraft, hdigest]
      rfl
    · dsimp only [composingRebooked]
      rw [if_neg hdraft]
      rfl
  exact congrArg (fun digestOf =>
    { composing platformDrafted surroundingsDrafted with
      agentReceiptMessageDigestSha256Hex := digestOf }) hsame

/-- The receipt names the second hotel. -/
theorem exists_draft_rebooked :
    ∃ report ∈ rebookedTrace, ∃ draft, draft? report.event = some draft ∧
      draft.merchant.map (·.vendorId) = some (some "hotel-2") := by
  have hlast : (rebookedTrace.getLast?.bind fun report => (draft? report.event).map fun draft =>
      draft.merchant.map (·.vendorId)) = some (some (some "hotel-2")) := by
    rw [rebookedTrace, composing_eq_rebooked]
    decide +kernel
  obtain ⟨report, hreport, hdraft⟩ := Option.bind_eq_some_iff.mp hlast
  obtain ⟨draft, hdraft, hvendor⟩ := Option.map_eq_some_iff.mp hdraft
  exact ⟨report, List.mem_of_getLast? hreport, draft, hdraft, hvendor⟩

theorem reportsRequest_iff_sameParties_rebooked :
    ∃ (first : List AgentEntry) (report : AgentEntry) (draft : AgentReceiptDraft)
        (executed asked : ToolCallInput) (verified : AgentEntry) (request : SpendRequest)
        (answer : VerifyCapabilityResult),
      report.call = .wrapExecute executed ∧
      Authorizes first report.task verified request answer ∧
      answer.decisionId = some draft.authorization.decisionId ∧
      toolInput? verified.call = some asked ∧
      (ReportsRequest platformDrafted draft request ↔
        SameParties platformDrafted bindingDrafted asked executed
          (HasMerchant (composing platformDrafted surroundingsDrafted) bindingDrafted first
            report.task)) := by
  obtain ⟨report, hreport, draft, hdraft, -⟩ := exists_draft_rebooked
  obtain ⟨first, second, htrace⟩ := List.append_of_mem hreport
  obtain ⟨result, hevent, hdraft⟩ := finished_of_draft? hdraft
  exact ⟨first, report, draft, reportsRequest_iff_sameParties htrace hevent hdraft⟩

/-- The receipt of the second hotel names a decision that Harbor took on the first. -/
theorem wrapExecute_reports_rebooked :
    ∃ report ∈ rebookedTrace, ∃ draft, draft? report.event = some draft ∧
      ∀ verified ∈ rebookedTrace, ∀ request ∈ request? verified.event,
        ¬ReportsRequest platformDrafted draft request := by
  obtain ⟨report, hreport, draft, hdraft, hvendor⟩ := exists_draft_rebooked
  refine ⟨report, hreport, draft, hdraft, fun verified hverified request hrequest hreports => ?_⟩
  have hasked : ∀ verified ∈ rebookedTrace, ∀ request ∈ request? verified.event,
      request.vendorId = some "hotel-1" := by
    decide +kernel
  obtain ⟨merchant, hmerchant, hsecond⟩ := Option.map_eq_some_iff.mp hvendor
  have hfirst := hreports.vendorId merchant hmerchant
  rw [hsecond, hasked verified hverified request hrequest] at hfirst
  exact absurd hfirst (by decide)

end PaybondKit.Receipt
