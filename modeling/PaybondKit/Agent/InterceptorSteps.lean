import PaybondKit.Agent.CallSteps

/-!
# The steps of the interceptor

The same for `authorize_tool_call` and `wrap_execute`. Between the begin of a call
and its first await nothing else runs, so the digest it pins and the registry it
reads belong to one state.
-/

namespace PaybondKit.Agent

open Coroutine

variable {platform : Platform} {binding : PaybondRunBinding} {call : AgentCall}
variable {view : CallView} {state : RunState}

/-! ## Calls to the host that leave the view alone -/

theorem conforms_quiet {hostCall : HostCall}
    {post : Except PyExc hostCall.Answer → CallView → RunState → Prop}
    (hsync : hostCall.awaits = false) (hallowed : HostAllowed binding call view state hostCall)
    (hrecord : ∀ answer, view.recordHost hostCall answer = view)
    (hpost : ∀ answer, post answer view state) :
    Conforms platform binding call (host hostCall) view state post := by
  refine (follows_host hsync).mpr fun answer => ⟨hallowed, ?_⟩
  change post answer (view.recordHost hostCall answer) state
  rw [hrecord answer]
  exact hpost answer

theorem conforms_quietAwait {hostCall : HostCall}
    {post : Except PyExc hostCall.Answer → CallView → RunState → Prop}
    (hawait : hostCall.awaits = true) (hyield : ∀ event, YieldAllowed call view event)
    (hissue : ∀ before, IssueAllowed binding call view before hostCall)
    (hallowed : ∀ before, HostAllowed binding call view before hostCall)
    (hissued : view.recordIssue hostCall = view)
    (hrecord : ∀ answer, view.recordHost hostCall answer = view)
    (hpost : ∀ answer resumed, post answer view resumed) :
    Conforms platform binding call (host hostCall) view state post := by
  refine (follows_await hawait).mpr ⟨⟨hyield _, hissue state⟩, fun resumed answer => ?_⟩
  change Allowed platform binding call (view.recordIssue hostCall) _ ∧
    post answer ((view.recordIssue hostCall).recordHost hostCall answer) resumed
  rw [hissued, hrecord answer]
  exact ⟨hallowed resumed, hpost answer resumed⟩

/-! ## Resolving -/

/-- Resolving a call keeps the view, and the request it builds is for that call. -/
theorem conforms_resolveSideEffectingCall {toolName toolCallId defaultOperation : String}
    {input : ToolCallInput} {entry : PaybondSideEffectingToolEntry}
    {post : Except PyExc ResolvedCall → CallView → RunState → Prop}
    (hpinned : view.pinned = some (state.policySnapshot.map (·.digest)))
    (hresolved : view.resolvedIn = some state)
    (hentry : state.registry.sideEffecting.get? toolName = some entry)
    (hok : ∀ resolved, resolved.authKwargs.IsFor toolCallId toolName resolved.operation
      resolved.requestedSpendCents → resolved.authKwargs.AsksFor binding input entry →
        post (.ok resolved) view state)
    (herror : ∀ exception, post (.error exception) view state) :
    Conforms platform binding call
      (resolveSideEffectingCall binding toolName toolCallId input entry defaultOperation)
      view state post := by
  have hrest : ∀ spendCents, input.Spends entry spendCents → Conforms platform binding call
      (pure { operation := pyStrip ((truthyStr input.operation).getD defaultOperation)
              requestedSpendCents := boundBySandbox binding spendCents
              entry := entry
              authKwargs := buildAuthKwargs binding toolName toolCallId input
                (pyStrip ((truthyStr input.operation).getD defaultOperation))
                (boundBySandbox binding spendCents) }) view state post :=
    fun spendCents hspends => hok _ ⟨rfl, rfl, rfl, rfl⟩ ⟨rfl, spendCents, hspends, rfl⟩
  refine (follows_bind _ _).mpr ?_
  dsimp only [assertOperationAllowed]
  split
  case isFalse => exact herror _
  case isTrue =>
    change Conforms platform binding call _ view state post
    split
    next cents hcents => exact hrest _ (by simp [ToolCallInput.Spends, hcents])
    next hcents =>
      have hsame : CallView.record view ⟨state, .completed (.access .readRegistry)
          (.ok state.registry)⟩ = view := by
        change { view with resolvedIn := some state } = view
        rw [← hresolved]
      refine (follows_bind _ _).mpr (follows_access.mpr fun elapsed => ⟨hpinned, ?_⟩)
      dsimp only [Access.run]
      rw [hsame]
      refine (follows_bind _ _).mpr ?_
      rw [resolveSpendCents, hentry, Option.bind_some]
      cases hrule : entry.spendCents with
      | none => exact hrest _ (by simp [ToolCallInput.Spends, hcents, hrule])
      | some rule =>
          cases rule with
          | cents value => exact hrest _ (by simp [ToolCallInput.Spends, hcents, hrule])
          | jsonPath path tool =>
              refine (follows_ofExcept _).mpr ?_
              cases hpath : resolveSpendCentsFromJsonPath input.arguments path tool with
              | error exception => exact herror _
              | ok spendCents =>
                  exact hrest _ (by simpa [ToolCallInput.Spends, hcents, hrule] using hpath)
          | resolver callback =>
              refine conforms_quiet rfl trivial (fun _ => rfl) fun answer => ?_
              rcases answer with exception | spendCents
              · exact herror exception
              · exact hrest spendCents (by simp [ToolCallInput.Spends, hcents, hrule])

/-! ## Counting calls in flight -/

/-- A call of the interceptor may give up its place and end; `outcomeOf` is what its
result looks like from outside. -/
structure InFlightDone {α : Type} (binding : PaybondRunBinding) (call : AgentCall)
    (outcomeOf : α → AgentOutcome) (outcome : Except PyExc α) (view : CallView) : Prop where
  pinned : view.pinned.isSome = true
  ended : view.ended = false
  yields : ∀ event, YieldAllowed call view event
  settled : SettledAllowed call view
  report : ∀ value result, outcome = .ok value → outcomeOf value = .executed result →
    ReportAllowed binding call view result

/-- The frame of both methods: check the arguments, and count the call while it runs. -/
theorem conforms_callInFlight {α : Type} (outcomeOf : α → AgentOutcome) (input : ToolCallInput)
    (body : Option String → Routine α) (huses : call.UsesInterceptor)
    (hbody : ∀ begun : RunState, Conforms platform binding call
      (body (begun.policySnapshot.map (·.digest)))
      { pinned := some (begun.policySnapshot.map (·.digest)) } begun
      fun outcome view' _ => InFlightDone binding call outcomeOf outcome view') :
    Conforms platform binding call
      (outcomeOf <$> (do
        requireToolCall input
        let pinnedDigest ← access .beginInFlight
        tryFinally (body pinnedDigest) (access .endInFlight)))
      {} state fun outcome view' state' =>
        Allowed platform binding call view' ⟨state', .finished outcome⟩ := by
  refine (follows_bind _ _).mpr ((follows_bind _ _).mpr ?_)
  unfold requireToolCall
  split
  · exact ends_of_auth_none rfl rfl
  split
  · exact ends_of_auth_none rfl rfl
  refine (follows_bind _ _).mpr (follows_access.mpr fun elapsed => ⟨⟨huses, rfl⟩, ?_⟩)
  refine (follows_tryFinally _ _).mpr 
    ((hbody { state with inFlightCount := state.inFlightCount + 1 }).weaken_post ?_)
  intro outcome view' state' hdone
  refine follows_access.mpr fun elapsed => ⟨⟨hdone.pinned, hdone.ended⟩, ?_⟩
  have hyield : ∀ event, YieldAllowed call { view' with ended := true } event :=
    fun event => ⟨(hdone.yields event).stored, (hdone.yields event).released⟩
  cases outcome with
  | error exception => exact ⟨hyield _, hdone.settled⟩
  | ok value =>
      change Allowed platform binding call _ ⟨_, .finished (.ok (outcomeOf value))⟩
      cases houtcome : outcomeOf value with
      | executed result =>
          exact ⟨hyield _, hdone.settled, hdone.report value result rfl houtcome⟩
      | _ => exact ⟨hyield _, hdone.settled⟩

/-! ## Authorizing -/

section Authorize

variable {input : ToolCallInput}

/-- A call that has been refused, or has stored what it was allowed, may end. -/
theorem authorize_done {outcome : Except PyExc PaybondToolInputGuardDecision}
    (hpinned : view.pinned.isSome = true) (hended : view.ended = false)
    (hstage : view.stage = .before)
    (hstored : view.grant.isSome = true → view.stored.isSome = true) :
    InFlightDone binding (.authorizeToolCall input) .decided outcome view where
  pinned := hpinned
  ended := hended
  yields _ := .of_stage (by simp [hstage]) fun _ _ => hstored
  settled := nofun
  report _ _ _ h := nomatch h

theorem conforms_decideRefusal {toolCallId operation : String} {exception : PyExc}
    {post : Except PyExc PaybondToolInputGuardDecision → CallView → RunState → Prop}
    (hpost : ∀ outcome, post outcome view state) :
    Conforms platform binding call (decideRefusal binding toolCallId operation exception)
      view state post := by
  unfold decideRefusal
  split
  · refine (follows_bind _ _).mpr (conforms_quiet rfl trivial ?_ ?_)
    · rintro (_ | _) <;> rfl
    · rintro (_ | _) <;> exact hpost _
  · refine (follows_bind _ _).mpr (conforms_quiet rfl trivial ?_ ?_)
    · rintro (_ | _) <;> rfl
    · rintro (_ | _) <;> exact hpost _
  · exact hpost _

/-- The store follows the answer without a pause. -/
theorem conforms_cacheAuthorization {resolved : ResolvedCall} {auth : VerifyCapabilityResult}
    {pinnedDigest : Option String} {operation : String} {entry : PaybondSideEffectingToolEntry}
    {post : Except PyExc Unit → CallView → RunState → Prop}
    (hpinned : view.pinned = some pinnedDigest) (hunstored : view.stored = none)
    (hresolved : view.Resolved binding input operation entry)
    (hgrant : view.grant = some (resolved.authKwargs, auth)) (hallow : auth.allow = true)
    (hrequest : resolved.authKwargs.IsFor (pyStrip input.toolCallId) (pyStrip input.toolName)
      resolved.operation resolved.requestedSpendCents)
    (hpost : ∀ stored state', post (.ok ()) { view with stored := some stored } state') :
    Conforms platform binding (.authorizeToolCall input)
      (cacheAuthorization (pyStrip input.toolName) (pyStrip input.toolCallId) resolved auth
        pinnedDigest) view state post := by
  refine (follows_bind _ _).mpr (follows_access.mpr fun _ => ⟨⟨input, rfl⟩, ?_⟩)
  refine (follows_bind _ _).mpr (follows_access.mpr fun _ => ⟨trivial, ?_⟩)
  refine (follows_bind _ _).mpr (follows_access.mpr fun _ => ⟨trivial, ?_⟩)
  refine follows_access.mpr fun _ => ⟨?_, hpost _ _⟩
  exact
    { unstored := hunstored
      key := ⟨input, rfl, rfl, rfl, operation, entry, hresolved⟩
      granted := ⟨resolved.authKwargs, pyStrip input.toolCallId, hgrant, hallow, rfl, hrequest⟩
      policyDigest := hpinned
      cachedAt := rfl }

theorem conforms_authorizeResolved {resolved : ResolvedCall} {pinnedDigest : Option String}
    {operation : String} {entry : PaybondSideEffectingToolEntry}
    (hpinned : view.pinned = some pinnedDigest) (hended : view.ended = false)
    (hstage : view.stage = .before) (hauth : view.auth = none) (hunstored : view.stored = none)
    (hresolved : view.Resolved binding input operation entry)
    (hrequest : resolved.authKwargs.IsFor (pyStrip input.toolCallId) (pyStrip input.toolName)
      resolved.operation resolved.requestedSpendCents)
    (hasks : resolved.authKwargs.AsksFor binding input entry) :
    Conforms platform binding (.authorizeToolCall input)
      (authorizeResolved binding (pyStrip input.toolName) (pyStrip input.toolCallId) resolved
        pinnedDigest) view state
      fun outcome view' _ =>
        InFlightDone binding (.authorizeToolCall input) .decided outcome view' := by
  have hgrant : view.grant = none := by
    simp only [CallView.auth, Option.or_eq_none_iff, Option.map_eq_none_iff] at hauth
    exact hauth.2
  have hrefused : ∀ outcome : Except PyExc PaybondToolInputGuardDecision,
      InFlightDone binding (.authorizeToolCall input) .decided outcome view :=
    fun outcome => authorize_done (by simp [hpinned]) hended hstage (by simp [hgrant])
  refine (follows_bind _ _).mpr (conforms_quiet rfl trivial ?_ ?_)
  · rintro (_ | _) <;> rfl
  rintro (exception | _)
  · exact hrefused _
  refine (follows_bind _ _).mpr ((follows_tryExcept _ _).mpr ((follows_bind _ _).mpr
    (conforms_assertSpendAuthorized hstage hauth
      (fun _ => ⟨input, operation, entry, .inl rfl, hresolved, hasks⟩) ?_ ?_)))
  · intro auth resumed hallow
    refine (follows_bind _ _).mpr
      (conforms_cacheAuthorization hpinned hunstored hresolved rfl hallow hrequest ?_)
    intro stored state'
    have hdone : ∀ outcome : Except PyExc PaybondToolInputGuardDecision,
        InFlightDone binding (.authorizeToolCall input) .decided outcome
          { view with grant := some (resolved.authKwargs, auth), stored := some stored } :=
      fun outcome => authorize_done (by simp [hpinned]) hended hstage fun _ => rfl
    refine (follows_bind _ _).mpr ((follows_host rfl).mpr fun answer => ⟨trivial, ?_⟩)
    cases answer with
    | ok _ => exact hdone _
    | error exception =>
        -- the sink raised after the entry was stored
        exact authorize_done (by simp [CallView.record, CallView.recordHost, CallView.recordSink,
          spendAuthorizedEvent, hpinned]) hended hstage fun _ => rfl
  · intro exception resumed
    refine (follows_bind _ _).mpr (conforms_decideRefusal ?_)
    rintro (exception' | decision)
    · exact hrefused _
    · exact hrefused _

theorem authorizeToolCall_obeys (input : ToolCallInput) :
    (program platform binding (.authorizeToolCall input)).Obeys runMachine
      (agentProtocol platform binding) (.authorizeToolCall input) := by
  intro state
  refine conforms_callInFlight .decided input (authorizeInFlight binding input) trivial
    fun begun => ?_
  have hrefused : ∀ outcome : Except PyExc PaybondToolInputGuardDecision,
      InFlightDone binding (.authorizeToolCall input) .decided outcome
        { pinned := some (begun.policySnapshot.map (·.digest)), resolvedIn := some begun } :=
    fun outcome => authorize_done rfl rfl rfl nofun
  dsimp only [authorizeInFlight]
  refine (follows_bind _ _).mpr (follows_access.mpr fun _ => ⟨rfl, ?_⟩)
  dsimp only [Access.run]
  split
  · exact hrefused _
  · exact hrefused _
  next toolName operation entry hresolution =>
    obtain ⟨rfl, hentry⟩ := PaybondToolRegistry.resolveTool_eq_sideEffecting hresolution
    refine (follows_bind _ _).mpr ((follows_tryExcept _ _).mpr ((follows_bind _ _).mpr
      (conforms_resolveSideEffectingCall rfl rfl hentry ?_ ?_)))
    · intro resolved hrequest hasks
      exact conforms_authorizeResolved rfl rfl rfl rfl rfl
        ⟨begun, rfl, hresolution⟩ hrequest hasks
    · intro exception
      dsimp only
      split
      · exact hrefused _
      · exact hrefused _

end Authorize

/-! ## Obtaining an authorization -/

section Wrap

variable {input : ToolCallInput}

/-- The execution holds an authorization for the resolved call, and nothing else
about its view has changed. -/
structure Holding (binding : PaybondRunBinding) (call : AgentCall) (view view' : CallView)
    (before : RunState) (toolName toolCallId : String) (resolved : ResolvedCall)
    (authorized : AuthorizedCall) : Prop where
  stage : view'.stage = .before
  requested : view'.requested = []
  pinned : view'.pinned = view.pinned
  ended : view'.ended = view.ended
  resolvedIn : view'.resolvedIn = view.resolvedIn
  decisionId : authorized.auth.decisionId = view'.decisionId
  policyDigest : authorized.policyDigest = view'.reportedDigest
  invocation : InvocationAllowed binding call view' before
    (.intercepted toolCallId toolName resolved.operation resolved.requestedSpendCents)

/-- An execution that asked Harbor itself and has not run the handler may end, if it
holds nothing or the trace sink raised. -/
theorem wrap_done_before {outcome : Except PyExc PaybondInterceptWrapExecuteResult}
    (hpinned : view.pinned.isSome = true) (hended : view.ended = false)
    (hstage : view.stage = .before) (hauth : view.auth = none ∨ view.sinkRaised = true)
    (hreport : ∀ result, outcome = .ok result → result.authorization = none) :
    InFlightDone binding (.wrapExecute input) .executed outcome view where
  pinned := hpinned
  ended := hended
  yields _ := .of_stage (by simp [hstage]) fun _ h => nomatch h
  settled := by
    rintro _ hdecision
    rcases hauth with hauth | hsink
    · simp [CallView.decisionId, hauth] at hdecision
    · exact .inr (.inl hsink)
  report value result houtcome hvalue report hauthorization := by
    cases hvalue
    rw [hreport value houtcome] at hauthorization
    cases hauthorization

theorem conforms_obtainAuthorization {toolName toolCallId operation : String}
    {resolved : ResolvedCall} {pinnedDigest : Option String}
    {entry : PaybondSideEffectingToolEntry}
    (hpinned : view.pinned = some pinnedDigest) (hended : view.ended = false)
    (hstage : view.stage = .before) (hcached : view.cached = none) (hgrant : view.grant = none)
    (hrequested : view.requested = []) (hresolved : view.Resolved binding input operation entry)
    (htoolCallId : toolCallId = pyStrip input.toolCallId)
    (htoolName : toolName = pyStrip input.toolName)
    (hrequest : resolved.authKwargs.IsFor toolCallId toolName resolved.operation
      resolved.requestedSpendCents)
    (hasks : resolved.authKwargs.AsksFor binding input entry) :
    Conforms platform binding (.wrapExecute input)
      (obtainAuthorization binding toolName toolCallId resolved pinnedDigest) view state
      fun outcome view' state' => match outcome with
        | .ok authorized => Holding binding (.wrapExecute input) view view' state' toolName
            toolCallId resolved authorized
        | .error exception =>
            InFlightDone binding (.wrapExecute input) .executed (.error exception) view' := by
  have hauth : view.auth = none := by simp [CallView.auth, hcached, hgrant]
  have hwrap : ∃ input' toolOperation entry', AgentCall.wrapExecute input = .wrapExecute input' ∧
      toolCallId = pyStrip input'.toolCallId ∧ toolName = pyStrip input'.toolName ∧
        view.Resolved binding input' toolOperation entry' :=
    ⟨input, operation, entry, rfl, htoolCallId, htoolName, hresolved⟩
  refine (follows_bind _ _).mpr
    (follows_access.mpr fun elapsed => ⟨⟨⟨input, rfl⟩, hstage, hauth⟩, ?_⟩)
  dsimp only [Access.run, CallView.record]
  generalize htaken : (takeValidCachedAuthorization state.authorizedCalls
    (authorizationCacheKey toolCallId resolved.operation) _ (state.monotonic + elapsed)).1 = taken
  cases taken with
  | some cached =>
      -- the entry passed its checks against the clock that was read with it
      obtain ⟨-, hfresh, hmatches⟩ := takeValidCachedAuthorization_eq_some.mp htaken
      exact
        { stage := hstage, requested := hrequested, pinned := rfl, ended := rfl, resolvedIn := rfl
          decisionId := rfl
          policyDigest := by simp [CallView.reportedDigest, hpinned]
          invocation := ⟨hwrap, .inr ⟨cached, rfl, hfresh, hmatches⟩⟩ }
  | none =>
      have hsame : { view with cached := none } = view := by rw [← hcached]
      rw [Option.map_none, hsame]
      refine (follows_bind _ _).mpr (conforms_assertSpendAuthorized hstage hauth
        (fun _ => ⟨input, operation, entry, .inr rfl, hresolved, hasks⟩) ?_ ?_)
      · intro auth resumed hallow
        refine (follows_bind _ _).mpr (follows_access.mpr fun _ => ⟨trivial, ?_⟩)
        refine (follows_bind _ _).mpr ((follows_host rfl).mpr fun answer => ⟨trivial, ?_⟩)
        cases answer with
        | ok _ =>
            exact
              { stage := hstage, requested := hrequested, pinned := rfl, ended := rfl
                resolvedIn := rfl
                decisionId := by
                  simp [CallView.record, CallView.recordHost, CallView.recordAccess, hcached,
                    CallView.decisionId, CallView.auth]
                policyDigest := by
                  simp [CallView.record, CallView.recordHost, CallView.recordAccess, hcached,
                    CallView.reportedDigest, hpinned, truthyStr]
                invocation := ⟨hwrap, .inl ⟨hcached, resolved.authKwargs, auth, rfl, hrequest⟩⟩ }
        | error exception =>
            refine wrap_done_before (by change view.pinned.isSome = true; simp [hpinned]) hended hstage
              (.inr rfl) fun _ hresult => ?_
            cases hresult
      · intro exception resumed
        refine wrap_done_before (by simp [hpinned]) hended hstage (.inl hauth) fun _ hresult => ?_
        cases hresult

/-! ## Executing -/

/-- The handler of an execution, with the events around it. -/
theorem conforms_executeAndFinalize {toolName toolCallId : String} {resolved : ResolvedCall}
    {executeStartedAt : ℕ} (hruns : call.RunsHandler) (hstage : view.stage = .before)
    (hrequested : view.requested = [])
    (hinvocation : InvocationAllowed binding call view state
      (.intercepted toolCallId toolName resolved.operation resolved.requestedSpendCents)) :
    Conforms platform binding call
      (executeAndFinalize binding toolName toolCallId resolved view.decisionId executeStartedAt)
      view state (Handled view (HandlerDone view.decisionId)) := by
  refine conforms_releaseOnException hruns ?_ fun decisionId view' state' hcomplete =>
    conforms_finalizeSpend hcomplete
  refine (follows_bind _ _).mpr (conforms_maybeAwait hruns hstage hinvocation ?_ ?_)
  · intro out resumed
    refine (follows_bind _ _).mpr (follows_access.mpr fun _ => ⟨trivial, ?_⟩)
    refine (follows_bind _ _).mpr ((follows_host rfl).mpr fun answer => ⟨⟨rfl, hrequested⟩, ?_⟩)
    cases answer with
    | ok _ =>
        exact conforms_consume hruns hrequested fun decisionId view' hcomplete =>
          conforms_finalizeSpend hcomplete
    | error exception => exact ⟨.faulted exception, view.requested, rfl, .inr rfl⟩
  · intro exception resumed
    exact ⟨.raised exception, view.requested, rfl, .inl rfl⟩

/-! ## Reporting -/

section Report

variable {post : Except PyExc PaybondInterceptEvidenceResult → CallView → RunState → Prop}
variable {entry : PaybondSideEffectingToolEntry} {ctx : PaybondToolCallContext}

theorem conforms_resolveToolExternalAttestations {toolResult : PyValue}
    {post : Except PyExc (List PyValue) → CallView → RunState → Prop}
    (hpost : ∀ outcome, post outcome view state) :
    Conforms platform binding call (resolveToolExternalAttestations entry toolResult ctx)
      view state post := by
  unfold resolveToolExternalAttestations
  split
  · exact hpost _
  · refine (follows_tryExcept _ _).mpr (conforms_quiet rfl trivial (fun _ => rfl) ?_)
    rintro (exception | attestations)
    · dsimp only
      split
      · exact hpost _
      · exact hpost _
    · exact hpost _

theorem conforms_submitEvidence {requestedSpendCents : Option Int}
    {auth : VerifyCapabilityResult} {payload : PyValue}
    (hyield : ∀ event, YieldAllowed call view event)
    (hpost : ∀ outcome resumed, post outcome view resumed) :
    Conforms platform binding call
      (submitEvidence platform binding entry ctx requestedSpendCents auth payload)
      view state post := by
  unfold submitEvidence
  dsimp only
  split
  · refine (follows_bind _ _).mpr (conforms_quietAwait rfl hyield (fun _ => trivial)
      (fun _ => trivial) rfl (fun _ => rfl) ?_)
    rintro (exception | result) resumed
    · exact hpost _ _
    · exact hpost _ _
  split
  · exact hpost _ _
  · refine (follows_bind _ _).mpr (conforms_quiet rfl trivial (fun _ => rfl) ?_)
    rintro (exception | wire)
    · exact hpost _ _
    refine (follows_bind _ _).mpr (conforms_quietAwait rfl hyield (fun _ => trivial)
      (fun _ => trivial) rfl (fun _ => rfl) ?_)
    rintro (exception | result) resumed
    · exact hpost _ _
    · exact hpost _ _

theorem conforms_submitAutoEvidence {requestedSpendCents : Option Int}
    {auth : VerifyCapabilityResult} {toolResult : PyValue}
    (hyield : ∀ event, YieldAllowed call view event)
    (hpost : ∀ outcome resumed, post outcome view resumed) :
    Conforms platform binding call
      (submitAutoEvidence platform binding entry ctx requestedSpendCents toolResult auth)
      view state post := by
  refine (follows_bind _ _).mpr ((follows_tryExcept _ _).mpr
    (conforms_quiet rfl trivial (fun _ => rfl) ?_))
  rintro (exception | payload)
  · dsimp only
    split
    · exact hpost _ _
    · exact hpost _ _
  refine (follows_tryExcept _ _).mpr (conforms_submitEvidence hyield ?_)
  rintro (exception | evidence) resumed
  · dsimp only
    split
    · exact hpost _ _
    split
    · exact hpost _ _
    · exact hpost _ _
  · exact hpost _ _

/-- A draft carries the digest it was asked to report. -/
theorem conforms_buildReceiptDraft {receipt : ReceiptInput}
    {post : Except PyExc (Option AgentReceiptDraft) → CallView → RunState → Prop}
    (hpost : ∀ receiptDraft resumed,
      (∀ draft, receiptDraft = some draft → ∃ digest, truthyStr receipt.policyDigest = some digest ∧
        draft.authorization.policy.contentDigestSha256Hex = bareDigest digest) →
      post (.ok receiptDraft) view resumed) :
    Conforms platform binding call (buildReceiptDraft platform binding receipt)
      view state post := by
  unfold buildReceiptDraft
  split
  · exact hpost _ _ fun _ h => nomatch h
  split
  · exact hpost _ _ fun _ h => nomatch h
  next agentContext hagentContext _ context hcontext =>
    refine (follows_bind _ _).mpr (follows_access.mpr fun completedAtMs => ⟨trivial, ?_⟩)
    refine hpost _ _ fun draft hdraft => ?_
    refine ⟨context.policyDigest, receiptContext_policyDigest hcontext, ?_⟩
    cases hcompose : composeReceiptDraft platform binding agentContext context receipt
        (Access.run completedAtMs state .timeMs).1 with
    | error exception =>
        rw [hcompose] at hdraft
        cases hdraft
    | ok composed =>
        rw [hcompose] at hdraft
        cases hdraft
        exact composeReceiptDraft_policy hcompose

end Report

/-- What an execution reports after its handler is done. -/
theorem conforms_reportExecution {toolName toolCallId operation : String}
    {resolved : ResolvedCall} {authorized : AuthorizedCall} {executeStartedAtMs : ℕ}
    {toolResult : PyValue} {entry : PaybondSideEffectingToolEntry}
    (hpinned : view.pinned.isSome = true) (hended : view.ended = false)
    (hyield : ∀ event, YieldAllowed (.wrapExecute input) view event)
    (hsettled : SettledAllowed (.wrapExecute input) view)
    (hresolved : view.Resolved binding input operation entry)
    (hdigest : authorized.policyDigest = view.reportedDigest) :
    Conforms platform binding (.wrapExecute input)
      (reportExecution platform binding toolName toolCallId input resolved authorized
        executeStartedAtMs toolResult) view state
      fun outcome view' _ => InFlightDone binding (.wrapExecute input) .executed outcome view' := by
  have hraised : ∀ exception : PyExc,
      InFlightDone binding (.wrapExecute input) .executed (.error exception) view :=
    fun exception => ⟨hpinned, hended, hyield, hsettled, fun _ _ h => nomatch h⟩
  refine (follows_bind _ _).mpr (conforms_resolveToolExternalAttestations ?_)
  rintro (exception | externalAttestations)
  · exact hraised exception
  refine (follows_bind _ _).mpr (conforms_submitAutoEvidence hyield ?_)
  rintro (exception | evidence) resumed
  · exact hraised exception
  refine (follows_bind _ _).mpr (conforms_quiet rfl trivial ?_ ?_)
  · rintro (_ | _) <;> rfl
  rintro (exception | _)
  · exact hraised exception
  refine (follows_bind _ _).mpr (conforms_buildReceiptDraft ?_)
  intro receiptDraft resumed' hdraft
  refine ⟨hpinned, hended, hyield, hsettled, ?_⟩
  rintro _ _ ⟨⟩ ⟨⟩ report hreport
  cases hreport
  refine ⟨⟨input, operation, entry, rfl, hresolved⟩, hdigest, fun draft hsome => ?_⟩
  rw [← hdigest]
  exact hdraft draft hsome

/-- `wrap_execute` from the resolved entry on. -/
theorem conforms_wrapSideEffecting {operation : String} {pinnedDigest : Option String}
    {entry : PaybondSideEffectingToolEntry}
    (hpinned : view.pinned = some pinnedDigest) (hended : view.ended = false)
    (hcurrent : pinnedDigest = state.policySnapshot.map (·.digest))
    (hresolvedIn : view.resolvedIn = some state)
    (hentry : state.registry.sideEffecting.get? (pyStrip input.toolName) = some entry)
    (hstage : view.stage = .before) (hcached : view.cached = none) (hgrant : view.grant = none)
    (hrequested : view.requested = []) (hresolved : view.Resolved binding input operation entry) :
    Conforms platform binding (.wrapExecute input)
      (wrapSideEffecting platform binding (pyStrip input.toolName) (pyStrip input.toolCallId)
        input entry operation pinnedDigest) view state
      fun outcome view' _ => InFlightDone binding (.wrapExecute input) .executed outcome view' := by
  have hruns : (AgentCall.wrapExecute input).RunsHandler := trivial
  have hauth : view.auth = none := by simp [CallView.auth, hcached, hgrant]
  have hraised : ∀ exception : PyExc,
      InFlightDone binding (.wrapExecute input) .executed (.error exception) view := by
    intro exception
    refine wrap_done_before (by simp [hpinned]) hended hstage (.inl hauth) fun _ hresult => ?_
    cases hresult
  refine (follows_bind _ _).mpr
    (conforms_resolveSideEffectingCall (hpinned.trans (congrArg some hcurrent)) hresolvedIn hentry
      ?_ ?_)
  · intro resolved hrequest hasks
    refine (follows_bind _ _).mpr (conforms_quiet rfl trivial ?_ ?_)
    · rintro (_ | _) <;> rfl
    rintro (exception | _)
    · exact hraised exception
    refine (follows_bind _ _).mpr ((conforms_obtainAuthorization hpinned hended hstage hcached
      hgrant hrequested hresolved rfl rfl hrequest hasks).weaken_post ?_)
    rintro (exception | authorized) held state' hheld
    · exact hheld
    refine (follows_bind _ _).mpr (follows_access.mpr fun _ => ⟨trivial, ?_⟩)
    refine (follows_bind _ _).mpr (follows_access.mpr fun _ => ⟨trivial, ?_⟩)
    have hpinned' : held.pinned.isSome = true := by simp [hheld.pinned, hpinned]
    have hended' : held.ended = false := hheld.ended.trans hended
    rw [hheld.decisionId]
    refine (follows_bind _ _).mpr ((conforms_executeAndFinalize hruns hheld.stage
      hheld.requested hheld.invocation).weaken_post ?_)
    rintro (exception | toolResult) _ state'' ⟨stage, requested, rfl, hdone⟩
    · refine ⟨hpinned', hended', hdone.yields hruns, hdone.settled, fun _ _ hresult => ?_⟩
      cases hresult
    · obtain ⟨begun, hbegun, hresolution⟩ := hresolved
      exact conforms_reportExecution hpinned' hended' (hdone.yields hruns) hdone.settled
        ⟨begun, hheld.resolvedIn.trans hbegun, hresolution⟩ hheld.policyDigest
  · intro exception
    exact hraised exception

theorem wrapExecute_obeys (input : ToolCallInput) :
    (program platform binding (.wrapExecute input)).Obeys runMachine
      (agentProtocol platform binding) (.wrapExecute input) := by
  intro state
  have hruns : (AgentCall.wrapExecute input).RunsHandler := trivial
  refine conforms_callInFlight .executed input (wrapInFlight platform binding input) trivial
    fun begun => ?_
  dsimp only [wrapInFlight]
  refine (follows_bind _ _).mpr (follows_access.mpr fun _ => ⟨rfl, ?_⟩)
  dsimp only [Access.run]
  split
  next passed hresolution =>
    have hpassthrough := PaybondToolRegistry.resolveTool_passthrough hresolution
    -- a handler that passes through has no reservation
    have hpassed : ∀ (outcome : Except PyExc PaybondInterceptWrapExecuteResult) (stage : Stage),
        (∀ exception, stage ≠ .faulted exception) →
        (∀ result, outcome = .ok result → result.authorization = none) →
        InFlightDone binding (.wrapExecute input) .executed outcome
          { pinned := some (begun.policySnapshot.map (·.digest)), resolvedIn := some begun
            stage := stage } := by
      intro outcome stage hstage hreport
      refine ⟨rfl, rfl, fun event => hruns.yieldAllowed hstage, 
        (fun _ hdecision => nomatch hdecision), fun value result houtcome hvalue report hauthorization => ?_⟩
      cases hvalue
      rw [hreport value houtcome] at hauthorization
      cases hauthorization
    refine (follows_bind _ _).mpr (conforms_maybeAwait hruns rfl
      ⟨input, rfl, rfl, ⟨begun, rfl, hpassthrough⟩, rfl⟩ ?_ ?_)
    · intro out resumed
      refine hpassed _ .returned (fun _ h => nomatch h) fun result hresult => ?_
      cases hresult
      rfl
    · intro exception resumed
      exact hpassed _ (.raised exception) (fun _ h => nomatch h) fun _ h => nomatch h
  · exact wrap_done_before rfl rfl rfl (.inl rfl) fun _ h => nomatch h
  next toolName operation entry hresolution =>
    obtain ⟨rfl, hentry⟩ := PaybondToolRegistry.resolveTool_eq_sideEffecting hresolution
    exact conforms_wrapSideEffecting rfl rfl rfl rfl hentry rfl rfl rfl rfl
      ⟨begun, rfl, hresolution⟩

end Wrap

end PaybondKit.Agent
