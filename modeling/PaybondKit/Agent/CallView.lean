import PaybondKit.Agent.Calls

/-!
# What a call has done so far

The view of a call keeps the facts about its past that decide what it may do next:
the authorization it holds, how far the handler has come, the outcomes it has
requested, and for a reload what it has read. `Allowed` says what each step of each
call may be; every statement about runs of the event loop is derived from it.
-/

namespace PaybondKit.Agent

open Policy

/-- How far a call has come with the handler it wraps. -/
inductive Stage where
  | before
  /-- The handler gave back something to await. -/
  | invoked
  | returned
  | raised (exception : PyExc)
  /-- The handler returned, and the trace sink or Harbor raised before the
  reservation was finalized. -/
  | faulted (exception : PyExc)

/-- An event of an agent run, a step, and a step in the trace of its event loop. -/
abbrev AgentEvent := Event Val PyExc AgentOutcome

abbrev AgentStep := Step Val PyExc AgentOutcome RunState

abbrev AgentEntry := Entry AgentCall Val PyExc AgentOutcome RunState

structure CallView where
  /-- The digest that was pinned when the call was counted as in flight. -/
  pinned : Option (Option String) := none
  ended : Bool := false
  /-- The state in which the tool was looked up. -/
  resolvedIn : Option RunState := none
  /-- Harbor's allow within this call, with the request it answers. -/
  grant : Option (SpendRequest × VerifyCapabilityResult) := none
  stored : Option (String × CachedAuthorizationEntry) := none
  cached : Option (String × CachedAuthorizationEntry) := none
  /-- The trace sink raised on `spend_authorized`. -/
  sinkRaised : Bool := false
  stage : Stage := .before
  requested : List (String × SpendOutcome) := []
  /-- The last reading of the in-flight count. -/
  lastCount : Option ℕ := none
  /-- The last reading of the current snapshot before remote validation. -/
  compared : Option (Option PaybondPolicySnapshot) := none
  /-- Remote validation was asked for. -/
  remote : Bool := false

namespace CallView

/-- The answer of Harbor that the call holds. -/
def auth (view : CallView) : Option VerifyCapabilityResult :=
  (view.cached.map (·.2.auth)).or (view.grant.map (·.2))

def decisionId (view : CallView) : Option String := view.auth.bind (·.decisionId)

/-- The digest that a finished execution reports. -/
def reportedDigest (view : CallView) : Option String :=
  (truthyStr (view.cached.bind (·.2.policyDigest))).or view.pinned.join

def recordAccess (view : CallView) (before : RunState) : Access → CallView
  | .beginInFlight => { view with pinned := some (before.policySnapshot.map (·.digest)) }
  | .endInFlight => { view with ended := true }
  | .readRegistry => { view with resolvedIn := some before }
  | .readInFlightCount => { view with lastCount := some before.inFlightCount }
  | .readCurrentSnapshot =>
      if view.remote then view else { view with compared := some before.currentSnapshot }
  | .storeAuthorization cacheKey entry => { view with stored := some (cacheKey, entry) }
  | _ => view

def recordHandler (view : CallView) : Except PyExc HandlerReturn → CallView
  | .ok (.value _) => { view with stage := .returned }
  | .ok .awaitable => { view with stage := .invoked }
  | .error exception => { view with stage := .raised exception }

/-- The sink raised. -/
def recordSink (view : CallView) (exception : PyExc) : TraceEvent → CallView
  | .spendAuthorized _ _ _ _ _ _ => { view with sinkRaised := true }
  | .toolExecuted _ _ _ _ | .spendFinalized _ _ _ .consumed =>
      { view with stage := .faulted exception }
  | _ => view

def recordHost (view : CallView) : (call : HostCall) → Except PyExc call.Answer → CallView
  | .verifyCapability request, .ok result =>
      if result.allow then { view with grant := some (request, result) } else view
  | .execute _, answer => view.recordHandler answer
  | .awaitHandler _, .ok _ => { view with stage := .returned }
  | .awaitHandler _, .error exception => { view with stage := .raised exception }
  | .completeSpend _ .consumed, .error exception => { view with stage := .faulted exception }
  | .emitTrace event, .error exception => view.recordSink exception event
  | _, _ => view

/-- Requests that have been handed over. -/
def recordIssue (view : CallView) : HostCall → CallView
  | .completeSpend decisionId outcome =>
      { view with requested := view.requested ++ [(decisionId, outcome)] }
  | .validatePolicyRemote _ _ _ => { view with remote := true }
  | _ => view

def record (view : CallView) (step : AgentStep) : CallView :=
  match step.event with
  | .completed (.access (.takeValidCachedAuthorization cacheKey _)) (.ok entry) =>
      { view with cached := entry.map (cacheKey, ·) }
  | .completed (.access access) _ => view.recordAccess step.before access
  | .completed (.host call) answer => view.recordHost call answer
  | .issued (.host call) => view.recordIssue call
  | _ => view

/-! What the three kinds of steps leave alone. -/

/-- An answer of the host concerns the grant and the handler. -/
theorem recordHost_frame (view : CallView) (call : HostCall) (answer : Except PyExc call.Answer) :
    ∃ grant stage sinkRaised,
      view.recordHost call answer =
        { view with grant := grant, stage := stage, sinkRaised := sinkRaised } := by
  unfold recordHost recordHandler recordSink
  repeat' split
  all_goals exact ⟨_, _, _, rfl⟩

theorem recordIssue_frame (view : CallView) (call : HostCall) :
    ∃ requested remote,
      view.recordIssue call = { view with requested := requested, remote := remote } := by
  unfold recordIssue
  split <;> exact ⟨_, _, rfl⟩

/-- An access concerns what was read and stored. -/
theorem recordAccess_frame (view : CallView) (before : RunState) (access : Access) :
    ∃ pinned ended resolvedIn stored lastCount compared,
      view.recordAccess before access =
        { view with pinned := pinned, ended := ended, resolvedIn := resolvedIn, stored := stored
                    lastCount := lastCount, compared := compared } := by
  unfold recordAccess
  repeat' split
  all_goals exact ⟨_, _, _, _, _, _, rfl⟩

end CallView

/-! ## What a call may do -/

/-- The request that asks Harbor for one tool call. -/
structure SpendRequest.IsFor (request : SpendRequest) (toolCallId toolName operation : String)
    (requestedSpendCents : Option Int) : Prop where
  toolCallId_eq : request.toolCallId = some toolCallId
  toolName_eq : request.toolName = some toolName
  operation_eq : request.operation = operation
  requestedSpendCents_eq : request.requestedSpendCents = requestedSpendCents.getD 0

/-- The amount of a call is the caller's, or what the rule of its tool yields. -/
def ToolCallInput.Spends (input : ToolCallInput) (entry : PaybondSideEffectingToolEntry)
    (spendCents : Option Int) : Prop :=
  match input.requestedSpendCents, entry.spendCents with
  | some cents, _ => spendCents = some cents
  | none, none => spendCents = none
  | none, some (.cents cents) => spendCents = some cents
  | none, some (.jsonPath path toolName) =>
      resolveSpendCentsFromJsonPath input.arguments path toolName = .ok spendCents
  | none, some (.resolver _) => True

/-- The request asks for the amount of the call, within the sandbox, under the caller's
idempotency key. -/
def SpendRequest.AsksFor (binding : PaybondRunBinding) (request : SpendRequest)
    (input : ToolCallInput) (entry : PaybondSideEffectingToolEntry) : Prop :=
  request.idempotencyKey = input.idempotencyKey ∧
    ∃ spendCents, input.Spends entry spendCents ∧
      request.requestedSpendCents = (boundBySandbox binding spendCents).getD 0

section Allowed

variable (platform : Platform) (binding : PaybondRunBinding)
variable (call : AgentCall) (view : CallView)

/-- The tool was looked up as side-effecting. -/
def CallView.Resolved (input : ToolCallInput) (operation : String)
    (entry : PaybondSideEffectingToolEntry) : Prop :=
  ∃ state, view.resolvedIn = some state ∧
    state.registry.resolveTool (pyStrip input.toolName) (some binding.allowedTools) =
      .sideEffecting (pyStrip input.toolName) operation entry

/-- An authorization is stored once, for the call that Harbor allowed. -/
structure StoreAllowed (before : RunState) (cacheKey : String)
    (entry : CachedAuthorizationEntry) : Prop where
  unstored : view.stored = none
  key : ∃ input, call = .authorizeToolCall input ∧
    cacheKey = authorizationCacheKey (pyStrip input.toolCallId) entry.operation ∧
    entry.toolName = pyStrip input.toolName ∧
    ∃ operation toolEntry, view.Resolved binding input operation toolEntry
  granted : ∃ request toolCallId, view.grant = some (request, entry.auth) ∧
    entry.auth.allow = true ∧
    cacheKey = authorizationCacheKey toolCallId entry.operation ∧
    request.IsFor toolCallId entry.toolName entry.operation entry.requestedSpendCents
  policyDigest : view.pinned = some entry.policyDigest
  cachedAt : entry.cachedAt = before.monotonic

/-- The conditions under which a snapshot is applied. -/
structure ApplyAllowed (before : RunState) (snapshot : PaybondPolicySnapshot) : Prop where
  quiescent : view.lastCount = some 0
  registry : policyToToolRegistry platform.catalog snapshot.document = .ok snapshot.registry
  checked : ∃ options allowedTools previous, call.reloadOptions? binding = some options ∧
    view.compared = some previous ∧
    checkReplacement (previous.map (·.document)) snapshot options allowedTools = .ok () ∧
    (view.remote = false → previous = before.currentSnapshot)

def AccessAllowed (before : RunState) : Access → Prop
  | .beginInFlight => call.UsesInterceptor ∧ view.pinned = none
  | .endInFlight => view.pinned.isSome = true ∧ view.ended = false
  | .readRegistry => view.pinned = some (before.policySnapshot.map (·.digest))
  | .readInFlightCount | .readCurrentSnapshot => call.Reloads binding
  | .applyPolicySnapshot snapshot => ApplyAllowed platform binding call view before snapshot
  | .storeAuthorization cacheKey entry => StoreAllowed binding call view before cacheKey entry
  | .evictExpiredAuthorizationCache => ∃ input, call = .authorizeToolCall input
  | .takeValidCachedAuthorization _ _ =>
      (∃ input, call = .wrapExecute input) ∧ view.stage = .before ∧ view.auth = none
  | _ => True

/-- The tool was looked up as one that passes through. -/
def CallView.PassedThrough (input : ToolCallInput) : Prop :=
  ∃ state, view.resolvedIn = some state ∧
    state.registry.resolveTool (pyStrip input.toolName) (some binding.allowedTools) =
      .passthrough (pyStrip input.toolName)

/-- A handler is invoked under Harbor's answer to a request of this call, or under
a cached authorization that is not expired and was stored for the same key, unless
the tool passes through. -/
def InvocationAllowed (before : RunState) : Invocation → Prop
  | .intercepted toolCallId toolName operation requestedSpendCents =>
      (∃ input toolOperation entry, call = .wrapExecute input ∧
        toolCallId = pyStrip input.toolCallId ∧ toolName = pyStrip input.toolName ∧
        view.Resolved binding input toolOperation entry) ∧
      ((view.cached = none ∧ ∃ request result, view.grant = some (request, result) ∧
          request.IsFor toolCallId toolName operation requestedSpendCents) ∨
        ∃ entry, view.cached = some (authorizationCacheKey toolCallId operation, entry) ∧
          ¬entry.Expired before.monotonic ∧
          entry.Matches { operation, requestedSpendCents, toolName })
  | .passthrough toolName _ =>
      ∃ input, call = .wrapExecute input ∧ toolName = pyStrip input.toolName ∧
        view.PassedThrough binding input ∧ view.auth = none
  | .guarded _ _ => ¬call.UsesInterceptor

/-- What holds when the call gives up control. -/
structure YieldAllowed (event : Event Val PyExc AgentOutcome) : Prop where
  stored : ∀ input, call = .authorizeToolCall input → view.grant.isSome = true →
    view.stored.isSome = true
  released : ∀ exception decisionId, view.stage = .faulted exception →
    exception.isException = true → view.decisionId = some decisionId →
    (decisionId, .released) ∈ view.requested ∨
      event = .issued (.host (.completeSpend decisionId .released))

def CompleteAllowed (decisionId : String) (outcome : SpendOutcome) : Prop :=
  call.RunsHandler ∧ view.decisionId = some decisionId ∧
    match outcome with
    | .consumed => view.stage = .returned ∧ view.requested = []
    | .released => ∃ exception, exception.isException = true ∧
        (view.stage = .raised exception ∨ view.stage = .faulted exception)

/-- The interceptor asks for the tool it has looked up. -/
def AskAllowed (request : SpendRequest) : Prop :=
  call.UsesInterceptor → ∃ input operation entry,
    (call = .authorizeToolCall input ∨ call = .wrapExecute input) ∧
      view.Resolved binding input operation entry ∧ request.AsksFor binding input entry

def IssueAllowed (before : RunState) : HostCall → Prop
  | .verifyCapability request =>
      view.stage = .before ∧ view.auth = none ∧ AskAllowed binding call view request
  | .awaitHandler _ => view.stage = .before ∨ view.stage = .invoked
  | .completeSpend decisionId outcome => CompleteAllowed call view decisionId outcome
  | .validatePolicyRemote _ _ _ => view.compared = some before.currentSnapshot
  | _ => True

def HostAllowed (before : RunState) : HostCall → Prop
  | .verifyCapability _ => view.stage = .before ∧ view.auth = none
  | .execute invocation => view.stage = .before ∧ InvocationAllowed binding call view before invocation
  | .awaitHandler _ => view.stage = .before ∨ view.stage = .invoked
  | .completeSpend _ .consumed => view.stage = .returned ∧ view.requested ≠ []
  | .emitTrace (.toolExecuted _ _ _ _) => view.stage = .returned ∧ view.requested = []
  | .emitTrace (.spendFinalized _ _ _ .consumed) =>
      view.stage = .returned ∧ view.requested ≠ []
  | _ => True

/-- A call that holds a decision id ends only after it requested an outcome, or after
an exception that no handler of the code catches. -/
def SettledAllowed : Prop :=
  call.RunsHandler → view.decisionId.isSome = true →
    view.requested ≠ [] ∨ view.sinkRaised = true ∨
      ∃ exception, exception.isException = false ∧
        (view.stage = .raised exception ∨ view.stage = .faulted exception)

/-- The report of an execution carries the digest of the authorization it used. -/
def ReportAllowed (result : PaybondInterceptWrapExecuteResult) : Prop :=
  ∀ report, result.authorization = some report →
    (∃ input operation entry, call = .wrapExecute input ∧
      view.Resolved binding input operation entry) ∧
    report.policyDigest = view.reportedDigest ∧
    ∀ draft, result.receiptDraft = some draft → ∃ digest,
      truthyStr view.reportedDigest = some digest ∧
      draft.authorization.policy.contentDigestSha256Hex = bareDigest digest

def Allowed (step : AgentStep) : Prop :=
  match step.event with
  | .completed (.access access) _ => AccessAllowed platform binding call view step.before access
  | .completed (.host host) _ => HostAllowed binding call view step.before host
  | .issued (.access _) => False
  | .issued (.host host) =>
      YieldAllowed call view step.event ∧ IssueAllowed binding call view step.before host
  | .finished (.ok (.executed result)) =>
      YieldAllowed call view step.event ∧ SettledAllowed call view ∧
        ReportAllowed binding call view result
  | .finished _ => YieldAllowed call view step.event ∧ SettledAllowed call view
  | .cut => call.Reloads binding

end Allowed

abbrev callRecorder : Recorder CallView Val PyExc AgentOutcome RunState where
  start := {}
  record := CallView.record

/-- What the calls of an agent run do, each seen alone. -/
abbrev agentProtocol (platform : Platform) (binding : PaybondRunBinding) :
    LocalSpec AgentCall CallView Val PyExc AgentOutcome RunState where
  toRecorder := callRecorder
  allowed := Allowed platform binding

end PaybondKit.Agent
