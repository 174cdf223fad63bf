import PaybondKit.Agent.Instrument
import PaybondKit.Agent.Reservations
import PaybondKit.Policy.ReloadRace

/-!
# The generic tool adapter

The adapters wrap a list of tools. Which handler a wrapped tool runs is settled when
it is wrapped; which tool the interceptor authorizes is read from each call. The
calls of an adapter share the event loop with all other calls of the run.
-/

namespace PaybondKit.Agent

open Policy Coroutine

/-! ## Tool definitions -/

inductive ToolField where
  | value (value : PyValue)
  | callable (callback : Callback)

/-- An item of the list of tools. -/
inductive ToolItem where
  | dict (fields : OrderedDict String ToolField)
  | other (value : PyValue)

/-- What is passed for the list of tools. -/
inductive ToolList where
  | list (tools : List ToolItem)
  | other

/-- A tool definition that is accepted. -/
structure PaybondGenericToolDefinition where
  name : String
  execute : Callback
  name_ne : pyStrip name ≠ ""
  deriving DecidableEq

/-- `_is_generic_tool_definition`, with what it finds. -/
def genericToolDefinition? : ToolItem → Option PaybondGenericToolDefinition
  | .other _ => none
  | .dict fields =>
      match fields.get? "name", fields.get? "execute" with
      | some (.value (.str name)), some (.callable execute) =>
          if h : pyStrip name ≠ "" then some { name, execute, name_ne := h } else none
      | _, _ => none

/-- `_assert_generic_tools`. -/
def assertGenericTools : ToolList → Except PyExc (List PaybondGenericToolDefinition)
  | .other => .error (.other "TypeError"
      "generic tool adapter expects a list of {name, execute} tool definitions")
  | .list tools => tools.mapM fun tool =>
      match genericToolDefinition? tool with
      | some definition => .ok definition
      | none => .error (.other "TypeError"
          "each generic tool must have a non-empty name and an execute callable")

/-- `wrap_tools` and `wrap_executors`. A wrapped tool is known by the tool it wraps. -/
def wrapTools (tools : ToolList) : Except PyExc (List PaybondGenericToolDefinition) :=
  assertGenericTools tools

/-! ## Calls -/

/-- A call dictionary; a key that is missing is `none`. -/
structure PaybondGenericToolCall where
  toolName : Option PyValue
  toolCallId : Option PyValue
  arguments : Option PyValue
  operation : Option String := none
  requestedSpendCents : Option Int := none
  vendorId : Option String := none
  taskId : Option String := none
  workflowId : Option String := none
  currency : Option String := none
  agentSubject : Option String := none
  approvalToken : Option String := none
  idempotencyKey : Option String := none

/-- `call[key]`. -/
def requireKey (key : String) (value : Option PyValue) : Except PyExc PyValue :=
  value.elim (.error (.other "KeyError" s!"'{key}'")) .ok

section Calls

variable (pyStr : PyValue → String)

/-- The keyword arguments that both adapters pass on. -/
def interceptorInput (call : PaybondGenericToolCall) (arguments : PyValue) :
    Except PyExc ToolCallInput := do
  let toolName ← requireKey "tool_name" call.toolName
  let toolCallId ← requireKey "tool_call_id" call.toolCallId
  return { toolName := pyStr toolName
           toolCallId := pyStr toolCallId
           arguments
           operation := call.operation
           requestedSpendCents := call.requestedSpendCents
           vendorId := call.vendorId
           taskId := call.taskId
           workflowId := call.workflowId
           currency := call.currency
           agentSubject := call.agentSubject
           approvalToken := call.approvalToken
           idempotencyKey := call.idempotencyKey }

/-- The arguments of `wrapped_execute`, which needs `call["arguments"]`. -/
def executeInput (call : PaybondGenericToolCall) : Except PyExc ToolCallInput := do
  let input ← interceptorInput pyStr call .none
  let arguments ← requireKey "arguments" call.arguments
  return { input with arguments }

/-- The arguments of `evaluate`. -/
def evaluateInput (call : PaybondGenericToolCall) : Except PyExc ToolCallInput :=
  interceptorInput pyStr call (call.arguments.getD .none)

end Calls

/-- The dictionary of `_intercept_result_to_dict`; keys that are left out are `none`. -/
structure InterceptPayload where
  toolResult : PyValue
  authorization : Option AuthorizationReport
  evidence : Option PaybondInterceptEvidenceResult

def interceptResultToDict (result : PaybondInterceptWrapExecuteResult) : InterceptPayload where
  toolResult := result.toolResult
  authorization := result.authorization
  evidence := result.evidence

section Programs

variable (platform : Platform) (binding : PaybondRunBinding)

/-- The `wrapped_execute` of a wrapped tool. -/
def wrappedExecute (call : PaybondGenericToolCall) : Routine InterceptPayload := do
  let input ← ofExcept (executeInput platform.pyStr call)
  let result ← wrapExecute platform binding input
  return interceptResultToDict result

def evaluate (call : PaybondGenericToolCall) : Routine PaybondToolInputGuardDecision := do
  let input ← ofExcept (evaluateInput platform.pyStr call)
  authorizeToolCall binding input

/-- The calls of a run with adapters. -/
inductive AdapterCall where
  | agent (call : AgentCall)
  | execute (tool : PaybondGenericToolDefinition) (call : PaybondGenericToolCall)
  | evaluate (call : PaybondGenericToolCall)

inductive AdapterOutcome where
  | agent (outcome : AgentOutcome)
  | executed (payload : InterceptPayload)
  | decided (decision : PaybondToolInputGuardDecision)

def adapterProgram : AdapterCall → Routine AdapterOutcome
  | .agent call => .agent <$> program platform binding call
  | .execute _ call => .executed <$> wrappedExecute platform binding call
  | .evaluate call => .decided <$> evaluate platform binding call

abbrev runAdapter (init : RunState) (actions : List (Action AdapterCall runMachine)) :
    Loop AdapterCall Val PyExc AdapterOutcome RunState :=
  Loop.run runMachine (adapterProgram platform binding) init actions

end Programs

/-! ## What an adapter's calls do -/

/-- What an outcome tells of the interceptor's. -/
def AdapterOutcome.toAgent : AdapterOutcome → AgentOutcome
  | .agent outcome => outcome
  | .executed payload => .executed
      { toolResult := payload.toolResult
        authorization := payload.authorization
        evidence := payload.evidence }
  | .decided decision => .decided decision

/-- The interceptor's call, unless a key is missing. -/
def AdapterCall.agentCall? (pyStr : PyValue → String) : AdapterCall → Option AgentCall
  | .agent call => some call
  | .execute _ call => (executeInput pyStr call).toOption.map .wrapExecute
  | .evaluate call => (evaluateInput pyStr call).toOption.map .authorizeToolCall

abbrev AdapterEntry := Entry AdapterCall Val PyExc AdapterOutcome RunState

abbrev adapterRecorder : Recorder CallView Val PyExc AdapterOutcome RunState where
  start := {}
  record view step := view.record (step.mapOutcome AdapterOutcome.toAgent)

/-- The calls of an adapter do what the calls of the interceptor may. -/
abbrev adapterProtocol (platform : Platform) (binding : PaybondRunBinding) :
    LocalSpec AdapterCall CallView Val PyExc AdapterOutcome RunState where
  toRecorder := adapterRecorder
  allowed call view step :=
    match call.agentCall? platform.pyStr with
    | some agentCall =>
        Allowed platform binding agentCall view (step.mapOutcome AdapterOutcome.toAgent)
    | none => ∃ exception, step.event = .finished (.error exception)

section Sound

variable {platform : Platform} {binding : PaybondRunBinding}

/-- A report says no less of its authorization when the draft is left out. -/
theorem allowed_finished_toAgent {call : AgentCall} {view : CallView} {state : RunState}
    {result : PaybondInterceptWrapExecuteResult}
    (hallowed : Allowed platform binding call view ⟨state, .finished (.ok (.executed result))⟩) :
    Allowed platform binding call view
      ⟨state, .finished (.ok (AdapterOutcome.executed (interceptResultToDict result)).toAgent)⟩ := by
  obtain ⟨hyield, hsettled, hreport⟩ := hallowed
  refine ⟨⟨hyield.stored, fun exception decisionId hstage hexception hdecision => ?_⟩,
    hsettled, fun report hauthorization => ?_⟩
  · rcases hyield.released exception decisionId hstage hexception hdecision with hdone | hevent
    · exact .inl hdone
    · cases hevent
  · obtain ⟨hcall, hdigest, -⟩ := hreport report hauthorization
    exact ⟨hcall, hdigest, fun _ hdraft => nomatch hdraft⟩

theorem allowed_adapter {call : AdapterCall} {agentCall : AgentCall}
    (hcall : call.agentCall? platform.pyStr = some agentCall) :
    (adapterProtocol platform binding).allowed call = fun view step =>
      Allowed platform binding agentCall view (step.mapOutcome AdapterOutcome.toAgent) := by
  funext view step
  simp only [hcall]

theorem allowed_adapter_of {call : AdapterCall} {agentCall : AgentCall} {view : CallView}
    {step : Step Val PyExc AdapterOutcome RunState}
    (hcall : call.agentCall? platform.pyStr = some agentCall)
    (hallowed : Allowed platform binding agentCall view (step.mapOutcome AdapterOutcome.toAgent)) :
    (adapterProtocol platform binding).allowed call view step := by
  rwa [allowed_adapter hcall]

/-- A call dictionary without its keys ends the call before it begins. -/
theorem allowed_adapter_none {call : AdapterCall} {view : CallView} {state : RunState}
    (exception : PyExc) (hcall : call.agentCall? platform.pyStr = none) :
    (adapterProtocol platform binding).allowed call view ⟨state, .finished (.error exception)⟩ := by
  simp only [hcall]
  exact ⟨exception, rfl⟩

/-- What the interceptor's call obeys, the adapter's does. -/
theorem follows_adapter {α : Type} {call : AdapterCall} {agentCall : AgentCall}
    {program : Routine α} {post : Except PyExc α → CallView → RunState → Prop}
    {view : CallView} {state : RunState}
    (hcall : call.agentCall? platform.pyStr = some agentCall)
    (hfollows : program.Follows runMachine CallView.record (Allowed platform binding agentCall) post
      view state) :
    program.Follows runMachine (adapterProtocol platform binding).record
      ((adapterProtocol platform binding).allowed call) post view state := by
  rw [allowed_adapter hcall]
  exact (follows_mapOutcome AdapterOutcome.toAgent).mpr hfollows

theorem adapterProgram_obeys (call : AdapterCall) :
    (adapterProgram platform binding call).Obeys runMachine (adapterProtocol platform binding)
      call := by
  intro state
  cases call with
  | agent call =>
      refine (follows_bind _ _).mpr ?_
      refine (follows_adapter rfl (program_obeys platform binding call state)).weaken_post ?_
      rintro (exception | outcome) view state hallowed
      · exact hallowed
      · exact hallowed
  | evaluate call =>
      refine (follows_bind _ _).mpr ((follows_bind _ _).mpr ((follows_ofExcept _).mpr ?_))
      cases hinput : evaluateInput platform.pyStr call with
      | error exception =>
          exact allowed_adapter_none exception (by
            simp [AdapterCall.agentCall?, hinput, Except.toOption])
      | ok input =>
          have hcall : (AdapterCall.evaluate call).agentCall? platform.pyStr =
              some (.authorizeToolCall input) := by
            simp [AdapterCall.agentCall?, hinput, Except.toOption]
          have hobeys := (follows_bind _ _).mp
            (program_obeys platform binding (.authorizeToolCall input) state)
          refine (follows_adapter hcall hobeys).weaken_post ?_
          rintro (exception | decision) view state hallowed
          · exact allowed_adapter_of hcall hallowed
          · exact allowed_adapter_of hcall hallowed
  | execute tool call =>
      refine (follows_bind _ _).mpr ((follows_bind _ _).mpr ((follows_ofExcept _).mpr ?_))
      cases hinput : executeInput platform.pyStr call with
      | error exception =>
          exact allowed_adapter_none exception (by
            simp [AdapterCall.agentCall?, hinput, Except.toOption])
      | ok input =>
          have hcall : (AdapterCall.execute tool call).agentCall? platform.pyStr =
              some (.wrapExecute input) := by
            simp [AdapterCall.agentCall?, hinput, Except.toOption]
          have hobeys := (follows_bind _ _).mp
            (program_obeys platform binding (.wrapExecute input) state)
          refine (follows_bind _ _).mpr ((follows_adapter hcall hobeys).weaken_post ?_)
          rintro (exception | result) view state hallowed
          · exact allowed_adapter_of hcall hallowed
          · exact allowed_adapter_of hcall (allowed_finished_toAgent hallowed)

theorem runAdapter_sound (platform : Platform) (binding : PaybondRunBinding) (init : RunState)
    (actions : List (Action AdapterCall runMachine)) :
    (runAdapter platform binding init actions).Sound runMachine (adapterProtocol platform binding)
      init :=
  Loop.run_sound adapterProgram_obeys init actions

end Sound

/-! ## The handler and the authorization -/

/-- The handler of the call is invoked. -/
def InvokesHandler {ρ : Type} : Event Val PyExc ρ → Prop
  | .completed (.host (.execute _)) _ => True
  | _ => False

instance {ρ : Type} : DecidablePred (InvokesHandler (ρ := ρ)) := fun event => by
  unfold InvokesHandler
  split <;> infer_instance

theorem InvokesHandler.eq {ρ : Type} {event : Event Val PyExc ρ}
    (hinvokes : InvokesHandler event) :
    ∃ invocation answer, event = .completed (.host (.execute invocation)) answer := by
  unfold InvokesHandler at hinvokes
  split at hinvokes
  · exact ⟨_, _, rfl⟩
  · exact hinvokes.elim

/-- What the call holds authorizes the tool, for the tool call: Harbor's answer to a
request of this call, or a cached one. -/
def AuthorizedTool (view : CallView) (toolCallId toolName : String) : Prop :=
  match view.cached with
  | some (cacheKey, entry) =>
      cacheKey = authorizationCacheKey toolCallId entry.operation ∧ entry.toolName = toolName
  | none =>
      ∃ request result, view.grant = some (request, result) ∧
        request.toolCallId = some toolCallId ∧ request.toolName = some toolName

section Claim

variable {platform : Platform} {binding : PaybondRunBinding} {view : CallView}

theorem not_authorizedTool {toolCallId toolName : String} (hnone : view.auth = none) :
    ¬AuthorizedTool view toolCallId toolName := by
  obtain ⟨hcached, hgrant⟩ := Option.or_eq_none_iff.mp hnone
  rw [Option.map_eq_none_iff] at hcached hgrant
  rintro hauthorized
  rw [AuthorizedTool, hcached] at hauthorized
  obtain ⟨request, result, hrequest, -⟩ := hauthorized
  cases hgrant.symm.trans hrequest

/-- An intercepted handler runs under the authorization of the tool that was looked up. -/
theorem authorizedTool_intercepted {input : ToolCallInput} {before : RunState}
    {toolCallId toolName operation : String} {cents : Option Int}
    (hallowed : InvocationAllowed binding (.wrapExecute input) view before
      (.intercepted toolCallId toolName operation cents)) (name : String) :
    AuthorizedTool view (pyStrip input.toolCallId) name ↔ pyStrip input.toolName = name := by
  obtain ⟨⟨wrapped, toolOperation, toolEntry, hwrapped, rfl, rfl, -⟩, hauthority⟩ := hallowed
  obtain rfl : input = wrapped := AgentCall.wrapExecute.inj hwrapped
  unfold AuthorizedTool
  rcases hauthority with ⟨hcached, request, result, hgrant, hfor⟩ | ⟨entry, hcached, -, hmatches⟩
  · rw [hcached]
    constructor
    · rintro ⟨granted, answer, hgranted, -, hname⟩
      obtain ⟨rfl, rfl⟩ : request = granted ∧ result = answer := by
        simpa using hgrant.symm.trans hgranted
      exact Option.some.inj (hfor.toolName_eq.symm.trans hname)
    · rintro rfl
      exact ⟨request, result, hgrant, hfor.toolCallId_eq, hfor.toolName_eq⟩
  · obtain ⟨hoperation, -, hname⟩ := hmatches
    rw [hcached]
    dsimp only at hoperation hname ⊢
    rw [hoperation, hname]
    exact and_iff_right rfl

variable (platform) (binding)

/-- When the handler of a wrapped tool that is registered is invoked, the guard has
authorized this tool exactly when the call names it. -/
theorem authorizedTool_iff (init : RunState) (actions : List (Action AdapterCall runMachine))
    {first second : List AdapterEntry} {step : AdapterEntry}
    {tool : PaybondGenericToolDefinition} {call : PaybondGenericToolCall}
    (htrace : (runAdapter platform binding init actions).trace = first ++ step :: second)
    (hcall : step.call = .execute tool call) (hinvokes : InvokesHandler step.event) :
    ∃ looked input, (adapterRecorder.view first step.task).resolvedIn = some looked ∧
      executeInput platform.pyStr call = .ok input ∧
        ((looked.registry.isSideEffecting tool.name = true →
            AuthorizedTool (adapterRecorder.view first step.task) (pyStrip input.toolCallId)
              tool.name) ↔
          (looked.registry.isSideEffecting tool.name = true →
            pyStrip input.toolName = tool.name)) := by
  have hbehaves := (runAdapter_sound platform binding init actions).behaves
  obtain ⟨-, -, -, hallowed⟩ := hbehaves.split htrace
  obtain ⟨⟨before, event⟩, task, adapterCall⟩ := step
  obtain rfl : adapterCall = _ := hcall
  cases hinput : executeInput platform.pyStr call with
  | error exception =>
      have hnone : (AdapterCall.execute tool call).agentCall? platform.pyStr = none := by
        simp [AdapterCall.agentCall?, hinput, Except.toOption]
      simp only [hnone] at hallowed
      obtain ⟨exception, rfl⟩ := hallowed
      exact hinvokes.elim
  | ok input =>
      have hagent : (AdapterCall.execute tool call).agentCall? platform.pyStr =
          some (.wrapExecute input) := by
        simp [AdapterCall.agentCall?, hinput, Except.toOption]
      rw [allowed_adapter hagent] at hallowed
      obtain ⟨invocation, answer, hevent⟩ := hinvokes.eq
      obtain rfl : event = _ := hevent
      have hinvocation : InvocationAllowed binding (.wrapExecute input)
        (adapterRecorder.view first task) before invocation := hallowed.2
      cases invocation with
      | guarded operation cents => exact absurd trivial hinvocation
      | intercepted toolCallId toolName operation cents =>
          obtain ⟨⟨wrapped, _, _, hwrapped, -, -, looked, hlooked, -⟩, -⟩ := id hinvocation
          refine ⟨looked, input, hlooked, rfl, forall_congr' fun _ => ?_⟩
          exact authorizedTool_intercepted hinvocation tool.name
      | passthrough toolName toolCallId =>
          obtain ⟨wrapped, hwrapped, -, ⟨looked, hlooked, hpasses⟩, hnone⟩ := hinvocation
          obtain rfl : input = wrapped := AgentCall.wrapExecute.inj hwrapped
          refine ⟨looked, input, hlooked, rfl, forall_congr' fun hregistered => ?_⟩
          refine iff_of_false (not_authorizedTool hnone) fun hname => ?_
          -- a registered tool does not pass through
          obtain ⟨entry, hentry⟩ := Option.isSome_iff_exists.mp hregistered
          rw [hname, PaybondToolRegistry.resolveTool_sideEffecting hentry] at hpasses
          cases hpasses

end Claim

/-! ## A wrapped booking tool -/

def platformAdapter : Platform :=
  { platformTravel with pyStr := fun value => value.asStr.getD "" }

/-- The tool that books hotels. -/
def hotelTool : PaybondGenericToolDefinition where
  name := "travel.book_hotel"
  execute := ⟨0⟩
  name_ne := by decide

/-- Its `execute` is given a call that names some tool. -/
def callHotelTool (toolName : String) : PaybondGenericToolCall where
  toolName := some (.str toolName)
  toolCallId := some (.str "call")
  arguments := some (.dict [])

def adapterActions (toolName : String) : List (Action AdapterCall runMachine) :=
  [.start (.execute hotelTool (callHotelTool toolName)) (hostChoices (decidingHost "decision")),
    .resume 0 (hostChoices (decidingHost "decision"))]

def adapterTrace (toolName : String) : List AdapterEntry :=
  (runAdapter platformAdapter bindingTravel (.bind registryTravel none)
    (adapterActions toolName)).trace

example : (assertGenericTools (.list [.dict (.ofList
    [("name", .value (.str "travel.book_hotel")), ("execute", .callable ⟨0⟩)])])).toOption =
      some [hotelTool] := by
  decide

theorem authorizedTool_iff_hotel :
    ∃ first step second, adapterTrace "travel.book_hotel" = first ++ step :: second ∧
      InvokesHandler step.event ∧ ∃ looked,
        (adapterRecorder.view first step.task).resolvedIn = some looked ∧
          (looked.registry.isSideEffecting "travel.book_hotel" = true →
            AuthorizedTool (adapterRecorder.view first step.task) "call" "travel.book_hotel") := by
  have hinvoked : ∃ step ∈ adapterTrace "travel.book_hotel",
      InvokesHandler step.event ∧ step.task = 0 := by
    decide +kernel
  obtain ⟨step, hmem, hinvokes, htask⟩ := hinvoked
  have hcall : step.call = .execute hotelTool (callHotelTool "travel.book_hotel") :=
    (runAdapter_sound platformAdapter bindingTravel (.bind registryTravel none)
      (adapterActions "travel.book_hotel")).calls 0 ⟨.execute hotelTool _, _⟩ rfl step hmem htask
  obtain ⟨first, second, htrace⟩ := List.append_of_mem hmem
  obtain ⟨looked, input, hlooked, hinput, hiff⟩ :=
    authorizedTool_iff platformAdapter bindingTravel (.bind registryTravel none)
      (adapterActions "travel.book_hotel") htrace hcall hinvokes
  obtain rfl := Except.ok.inj hinput
  exact ⟨first, step, second, htrace, hinvokes, looked, hlooked, hiff.mpr fun _ => by decide⟩

/-- A call of the wrapped booking tool that names a search books without authorization. -/
theorem wrappedExecute_runs_unauthorized :
    ∃ step ∈ adapterTrace "travel.search", InvokesHandler step.event ∧
      (adapterRecorder.view (adapterTrace "travel.search") step.task).auth.isNone = true ∧
        ∃ looked ∈ (adapterRecorder.view (adapterTrace "travel.search") step.task).resolvedIn,
          looked.registry.isSideEffecting hotelTool.name = true := by
  decide +kernel

end PaybondKit.Agent
