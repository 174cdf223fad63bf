import PaybondKit.Adapters.Frameworks
import PaybondKit.Agent.OneReservation

/-!
# The registry's decision and the framework adapters

A handler may run if the interceptor would run it at that moment: under Harbor's allow for a
side-effecting tool, and for a tool that passes through. A tool that an adapter has guarded
keeps to this. A tool that it gave back as it was runs its handler in any case.
-/

namespace PaybondKit.Adapters

open Agent Coroutine

/-! ## The calls of a run with framework tools -/

inductive FrameworkTask where
  | agent (call : AgentCall)
  | tool (framework : Framework) (returned : ReturnedTool) (call : IncomingCall)
      (approvalTokens : OrderedDict String String)

inductive FrameworkOutcome where
  | agent (outcome : AgentOutcome)
  | tool (result : PyValue)

section Programs

variable (platform : Platform) (json : JsonText) (binding : PaybondRunBinding)

def frameworkProgram : FrameworkTask → Routine FrameworkOutcome
  | .agent call => .agent <$> program platform binding call
  | .tool framework returned call approvalTokens =>
      .tool <$> callTool platform json binding approvalTokens framework returned call

abbrev runFramework (init : RunState) (actions : List (Action FrameworkTask runMachine)) :
    Loop FrameworkTask Val PyExc FrameworkOutcome RunState :=
  Loop.run runMachine (frameworkProgram platform json binding) init actions

end Programs

/-! ## What the registry decides -/

/-- What decides whether a call may run its handler. -/
structure GateView where
  /-- The registry that was bound when the call began. -/
  registry : Option PaybondToolRegistry := none
  /-- The tool that the call holds an authorization for. -/
  authorized : Option String := none

/-- The tool that an event authorizes: Harbor allows it, or has done so before. -/
def authorizedTool? {ρ : Type} : Event Val PyExc ρ → Option String
  | .completed (.host (.verifyCapability request)) (.ok result) =>
      if result.allow then request.toolName else none
  | .completed (.access (.takeValidCachedAuthorization _ expected)) (.ok (some _)) =>
      some expected.toolName
  | _ => none

def GateView.record {ρ : Type} (view : GateView) (step : Step Val PyExc ρ RunState) :
    GateView where
  registry := view.registry.or (some step.before.registry)
  authorized := view.authorized.or (authorizedTool? step.event)

/-- The handler is invoked, or its result is awaited. -/
def RunsHandler {ρ : Type} : Event Val PyExc ρ → Prop
  | .completed (.host (.execute _)) _ | .issued (.host (.awaitHandler _)) => True
  | _ => False

instance {ρ : Type} : DecidablePred (RunsHandler (ρ := ρ)) := fun event => by
  rcases event with op | ⟨op, answer⟩ | outcome | _
  all_goals try exact .isFalse not_false
  all_goals unfold RunsHandler
  all_goals split <;> infer_instance

section Sanctioned

variable (binding : PaybondRunBinding) (toolName : String)

/-- The registry lets the handler of the tool run. -/
def LetsRun (registry : PaybondToolRegistry) (authorized : Option String) : Prop :=
  pyStrip toolName ≠ "" ∧
    match registry.resolveTool (pyStrip toolName) (some binding.allowedTools) with
    | .passthrough _ => True
    | .denied _ _ => False
    | .sideEffecting _ _ _ => authorized = some (pyStrip toolName)

/-- The interceptor would run the handler of the tool: the registry that was bound when the
call began lets it. -/
def Sanctioned (view : GateView) : Prop :=
  ∃ registry, view.registry = some registry ∧ LetsRun binding toolName registry view.authorized

/-- The registry passes the tool through. -/
def PassesThrough (registry : PaybondToolRegistry) : Prop :=
  pyStrip toolName ≠ "" ∧
    registry.resolveTool (pyStrip toolName) (some binding.allowedTools) =
      .passthrough (pyStrip toolName)

variable {binding toolName} {registry : PaybondToolRegistry}

/-- Without an authorization, only what passes through may run. -/
theorem letsRun_none_iff : LetsRun binding toolName registry none ↔
    PassesThrough binding toolName registry := by
  refine and_congr_right fun _ => ?_
  cases hresolved : registry.resolveTool (pyStrip toolName) (some binding.allowedTools) with
  | passthrough name =>
      have hname := PaybondToolRegistry.resolveTool_passthrough hresolved
      rw [hname] at hresolved
      exact iff_of_true trivial hresolved.symm
  | denied name operation => simp
  | sideEffecting name operation entry => simp

/-- The handler may run from now on. -/
def Held (binding : PaybondRunBinding) (toolName : String) (view : GateView) : Prop :=
  ∃ registry, view.registry = some registry ∧
    (PassesThrough binding toolName registry ∨
      view.authorized.isSome = true ∧ LetsRun binding toolName registry view.authorized)

theorem Held.sanctioned {view : GateView} (hheld : Held binding toolName view) :
    Sanctioned binding toolName view := by
  obtain ⟨registry, hregistry, hpasses | ⟨-, hlets⟩⟩ := hheld
  · refine ⟨registry, hregistry, hpasses.1, ?_⟩
    rw [hpasses.2]
    trivial
  · exact ⟨registry, hregistry, hlets⟩

theorem Held.record {ρ : Type} {view : GateView} (hheld : Held binding toolName view)
    (step : Step Val PyExc ρ RunState) : Held binding toolName (view.record step) := by
  obtain ⟨registry, hregistry, hpasses | ⟨hauthorized, hlets⟩⟩ := hheld
  · exact ⟨registry, by simp [GateView.record, hregistry], .inl hpasses⟩
  · obtain ⟨held, hheld⟩ := Option.isSome_iff_exists.mp hauthorized
    refine ⟨registry, by simp [GateView.record, hregistry], .inr ?_⟩
    have hkept : (view.record step).authorized = view.authorized := by
      simp [GateView.record, hheld]
    rw [hkept]
    exact ⟨hauthorized, hlets⟩

end Sanctioned

/-! ## The interceptor enforces the decision -/

section Interceptor

variable {ρ : Type} {platform : Platform} {binding : PaybondRunBinding} {toolName : String}
variable {view : GateView} {state : RunState} {registry : PaybondToolRegistry}

/-- The handler runs only if it may. -/
def Enforces (binding : PaybondRunBinding) (toolName : String) (view : GateView)
    (step : Step Val PyExc ρ RunState) : Prop :=
  RunsHandler step.event → Sanctioned binding toolName (view.record step)

/-- The call has begun under the registry, and holds no authorization. -/
structure Fresh (view : GateView) (registry : PaybondToolRegistry) : Prop where
  registry_eq : view.registry = some registry
  authorized_eq : view.authorized = none

theorem Fresh.record (hfresh : Fresh view registry) {step : Step Val PyExc ρ RunState}
    (hquiet : authorizedTool? step.event = none) : Fresh (view.record step) registry where
  registry_eq := by simp [GateView.record, hfresh.registry_eq]
  authorized_eq := by simp [GateView.record, hfresh.authorized_eq, hquiet]

/-- Once the handler may run, the rest of the call is free. -/
theorem follows_of_held {α : Type} {program : Routine α}
    {post : Except PyExc α → GateView → RunState → Prop}
    (hpost : ∀ outcome view state, post outcome view state)
    (hheld : Held binding toolName view) :
    program.Follows runMachine GateView.record (Enforces (ρ := ρ) binding toolName) post view
      state :=
  .of_invariant (Held binding toolName) (fun _ step h => h.record step)
    (fun _ step h _ => (h.record step).sanctioned) (fun _ _ _ _ => hpost _ _ _) hheld

/-- An access that authorizes nothing. -/
theorem follows_quietAccess {op : Access} {post : Except PyExc op.Answer → GateView → RunState → Prop}
    (hfresh : Fresh view registry)
    (hquiet : ∀ answer, authorizedTool? (ρ := ρ) (.completed (.access op) answer) = none)
    (hpost : ∀ elapsed view, Fresh view registry →
      post (.ok (op.run elapsed state).1) view (op.run elapsed state).2) :
    (access op).Follows runMachine GateView.record (Enforces (ρ := ρ) binding toolName) post view
      state :=
  follows_access.mpr fun elapsed =>
    ⟨fun hruns => hruns.elim, hpost elapsed _ (hfresh.record (hquiet _))⟩

/-- A synchronous call to the host that neither runs the handler nor authorizes anything. -/
theorem follows_quietHost {call : HostCall} (hsync : call.awaits = false)
    {post : Except PyExc call.Answer → GateView → RunState → Prop} (hfresh : Fresh view registry)
    (hquiet : ∀ answer, ¬RunsHandler (ρ := ρ) (.completed (.host call) answer) ∧
      authorizedTool? (ρ := ρ) (.completed (.host call) answer) = none)
    (hpost : ∀ answer view, Fresh view registry → post answer view state) :
    (host call).Follows runMachine GateView.record (Enforces (ρ := ρ) binding toolName) post view
      state :=
  (follows_host hsync).mpr fun answer =>
    ⟨fun hruns => absurd hruns (hquiet answer).1,
      hpost answer _ (hfresh.record (hquiet answer).2)⟩

/-- The call is resolved for the tool it was looked up as, or refused. -/
theorem follows_resolveSideEffectingCall {name toolCallId defaultOperation : String}
    {input : ToolCallInput} {entry : PaybondSideEffectingToolEntry}
    {post : Except PyExc ResolvedCall → GateView → RunState → Prop}
    (hfresh : Fresh view registry)
    (hok : ∀ resolved view, Fresh view registry → resolved.authKwargs.toolName = some name →
      post (.ok resolved) view state)
    (herror : ∀ exception view, post (.error exception) view state) :
    (resolveSideEffectingCall binding name toolCallId input entry defaultOperation).Follows
      runMachine GateView.record (Enforces (ρ := ρ) binding toolName) post view state := by
  have hrest : ∀ spendCents view, Fresh view registry →
      (pure { operation := pyStrip ((truthyStr input.operation).getD defaultOperation)
              requestedSpendCents := boundBySandbox binding spendCents
              entry := entry
              authKwargs := buildAuthKwargs binding name toolCallId input
                (pyStrip ((truthyStr input.operation).getD defaultOperation))
                (boundBySandbox binding spendCents) } : Routine ResolvedCall).Follows
        runMachine GateView.record (Enforces (ρ := ρ) binding toolName) post view state :=
    fun spendCents view hfresh => hok _ view hfresh rfl
  refine (follows_bind _ _).mpr ?_
  dsimp only [assertOperationAllowed]
  split
  case isFalse => exact herror _ _
  case isTrue =>
    refine (follows_ret _).mpr ?_
    dsimp only
    split
    · exact hrest _ _ hfresh
    · refine (follows_bind _ _).mpr (follows_quietAccess hfresh (fun _ => rfl) ?_)
      intro elapsed view hfresh
      refine (follows_bind _ _).mpr ?_
      unfold resolveSpendCents
      split
      · exact hrest _ _ hfresh
      · exact hrest _ _ hfresh
      · refine (follows_ofExcept _).mpr ?_
        split
        · exact hrest _ _ hfresh
        · exact herror _ _
      · refine follows_quietHost rfl hfresh (fun _ => ⟨id, rfl⟩) ?_
        rintro (exception | cents) view hfresh
        · exact herror _ _
        · exact hrest _ _ hfresh

/-- Harbor's allow, for the tool that the request names. -/
theorem follows_assertSpendAuthorized {request : SpendRequest} {name : String}
    {post : Except PyExc VerifyCapabilityResult → GateView → RunState → Prop}
    (hfresh : Fresh view registry) (hname : request.toolName = some name)
    (hok : ∀ result view state, view.registry = some registry → view.authorized = some name →
      post (.ok result) view state)
    (herror : ∀ exception view state, post (.error exception) view state) :
    (assertSpendAuthorized request).Follows runMachine GateView.record
      (Enforces (ρ := ρ) binding toolName) post view state := by
  refine (follows_bind _ _).mpr ((follows_await rfl).mpr ⟨fun hruns => hruns.elim, ?_⟩)
  intro resumed answer
  refine ⟨fun hruns => hruns.elim, ?_⟩
  cases answer with
  | error exception => exact herror _ _ _
  | ok result =>
      dsimp only
      cases hallow : result.allow with
      | true =>
          refine hok _ _ _ ?_ ?_
          · simp [GateView.record, hfresh.registry_eq]
          · simp [GateView.record, hfresh.authorized_eq, authorizedTool?, hallow, hname]
      | false =>
          simp only [Bool.false_eq_true, if_false]
          split
          · exact herror _ _ _
          · exact herror _ _ _

/-- The call holds an authorization for its tool, cached or fresh. -/
theorem follows_obtainAuthorization {name toolCallId : String} {resolved : ResolvedCall}
    {pinnedDigest : Option String} {post : Except PyExc AuthorizedCall → GateView → RunState → Prop}
    (hfresh : Fresh view registry) (hname : resolved.authKwargs.toolName = some name)
    (hok : ∀ authorized view state, view.registry = some registry →
      view.authorized = some name → post (.ok authorized) view state)
    (herror : ∀ exception view state, post (.error exception) view state) :
    (obtainAuthorization binding name toolCallId resolved pinnedDigest).Follows runMachine
      GateView.record (Enforces (ρ := ρ) binding toolName) post view state := by
  refine (follows_bind _ _).mpr (follows_access.mpr fun elapsed => ⟨fun hruns => hruns.elim, ?_⟩)
  dsimp only [Access.run]
  generalize (takeValidCachedAuthorization state.authorizedCalls _ _ _).1 = taken
  cases taken with
  | some entry =>
      refine hok _ _ _ ?_ ?_
      · simp [GateView.record, hfresh.registry_eq]
      · simp [GateView.record, hfresh.authorized_eq, authorizedTool?]
  | none =>
      refine (follows_bind _ _).mpr ?_
      refine follows_assertSpendAuthorized (hfresh.record rfl) hname ?_ fun _ _ _ => herror _ _ _
      intro auth view resumed hregistry hauthorized
      refine (follows_bind _ _).mpr (follows_access.mpr fun elapsed => ⟨fun h => h.elim, ?_⟩)
      refine (follows_bind _ _).mpr ((follows_host rfl).mpr fun answer => ⟨fun h => h.elim, ?_⟩)
      cases answer with
      | error exception => exact herror _ _ _
      | ok _ =>
          refine hok _ _ _ ?_ ?_
          · simp [GateView.record, hregistry]
          · simp [GateView.record, hauthorized]

theorem wrapInFlight_enforces {input : ToolCallInput} {pinnedDigest : Option String}
    (hname : pyStrip input.toolName ≠ "") (hfresh : Fresh view state.registry)
    {post : Except PyExc PaybondInterceptWrapExecuteResult → GateView → RunState → Prop}
    (hpost : ∀ outcome view state, post outcome view state) :
    (wrapInFlight platform binding input pinnedDigest).Follows runMachine GateView.record
      (Enforces (ρ := ρ) binding input.toolName) post view state := by
  refine (follows_bind _ _).mpr (follows_quietAccess hfresh (fun _ => rfl) ?_)
  intro elapsed view hfresh
  dsimp only [Access.run]
  cases hresolved : state.registry.resolveTool (pyStrip input.toolName)
      (some binding.allowedTools) with
  | passthrough name =>
      have hpasses := PaybondToolRegistry.resolveTool_passthrough hresolved
      exact follows_of_held hpost ⟨state.registry, hfresh.registry_eq, .inl ⟨hname, hpasses⟩⟩
  | denied name operation => exact hpost _ _ _
  | sideEffecting name operation entry =>
      refine (follows_bind _ _).mpr ?_
      refine follows_resolveSideEffectingCall hfresh ?_ fun _ _ => hpost _ _ _
      intro resolved view hfresh hrequest
      refine (follows_bind _ _).mpr (follows_quietHost rfl hfresh (fun _ => ⟨id, rfl⟩) ?_)
      rintro (exception | _) view hfresh
      · exact hpost _ _ _
      · refine (follows_bind _ _).mpr ?_
        refine follows_obtainAuthorization hfresh hrequest ?_ fun _ _ _ => hpost _ _ _
        intro authorized view resumed hregistry hauthorized
        refine follows_of_held hpost ⟨state.registry, hregistry, .inr ⟨?_, hname, ?_⟩⟩
        · rw [hauthorized]
          rfl
        · rw [hresolved]
          exact hauthorized

/-- The interceptor runs a handler only as the registry decides that is bound when the call
begins. -/
theorem wrapExecute_enforces (input : ToolCallInput)
    (hview : view.authorized = none ∧ view.registry.getD state.registry = state.registry)
    {post : Except PyExc PaybondInterceptWrapExecuteResult → GateView → RunState → Prop}
    (hpost : ∀ outcome view state, post outcome view state) :
    (wrapExecute platform binding input).Follows runMachine GateView.record
      (Enforces (ρ := ρ) binding input.toolName) post view state := by
  refine (follows_bind _ _).mpr ?_
  unfold requireToolCall
  split
  · exact hpost _ _ _
  next hname =>
    split
    · exact hpost _ _ _
    · refine (follows_bind _ _).mpr (follows_access.mpr fun elapsed => ⟨fun h => h.elim, ?_⟩)
      refine (follows_tryFinally _ _).mpr ?_
      refine wrapInFlight_enforces hname ?_ fun outcome view state => ?_
      · constructor
        · cases hregistry : view.registry with
          | none => simp [GateView.record, hregistry, Access.run]
          | some bound =>
              rw [hregistry, Option.getD_some] at hview
              simp [GateView.record, hregistry, Access.run, hview.2]
        · simp [GateView.record, hview.1, authorizedTool?]
      · refine follows_access.mpr fun elapsed => ⟨fun h => h.elim, ?_⟩
        exact hpost _ _ _

end Interceptor

/-! ## The returned tools -/

section Tools

variable {ρ : Type} {platform : Platform} {json : JsonText} {binding : PaybondRunBinding}
variable {approvalTokens : OrderedDict String String} {toolName : String}
variable {view : GateView} {state : RunState}

theorem authorizedTool?_executeClosure (coerce : PyValue → PyValue) (op : Op)
    (answer : Except PyExc (Val op)) :
    authorizedTool? (ρ := ρ) (.completed op (executeClosure coerce op answer)) =
      authorizedTool? (ρ := ρ) (.completed op answer) := by
  cases op with
  | access op => rfl
  | host call => cases call <;> rfl

theorem runsHandler_executeClosure {coerce : PyValue → PyValue} {op : Op}
    {answer : Except PyExc (Val op)} (hruns : RunsHandler (ρ := ρ) (.completed op answer)) :
    RunsHandler (ρ := ρ) (.completed op (executeClosure coerce op answer)) := by
  cases op with
  | access op => exact hruns
  | host call => cases call <;> exact hruns

/-- The interceptor decides in the same way whatever becomes of the handler's result. -/
theorem executeClosure_enforces {α : Type} {program : Routine α} (coerce : PyValue → PyValue)
    {post : Except PyExc α → GateView → RunState → Prop}
    (hfollows : program.Follows runMachine GateView.record (Enforces (ρ := ρ) binding toolName)
      post view state) :
    (program.mapAnswers (executeClosure coerce)).Follows runMachine GateView.record
      (Enforces (ρ := ρ) binding toolName) post view state := by
  have hrecord : ∀ (view : GateView) (state : RunState) (op : Op) (answer : Except PyExc (Val op)),
      view.record (ρ := ρ) ⟨state, .completed op (executeClosure coerce op answer)⟩ =
        view.record (ρ := ρ) ⟨state, .completed op answer⟩ := by
    intro view state op answer
    simp only [GateView.record, authorizedTool?_executeClosure]
  refine hfollows.mapAnswers hrecord ?_ ?_
  · intro view state op answer henforces hruns
    have hsanctioned := henforces (runsHandler_executeClosure hruns)
    rwa [hrecord] at hsanctioned
  · intro op choice state
    cases op with
    | access op => exact ⟨choice, rfl⟩
    | host call => exact ⟨executeClosure coerce (.host call) choice, rfl⟩

theorem guardToolExecution_enforces {coerce serialize : PyValue → PyValue}
    {refuse : PyExc → Routine PyValue} {call : IncomingCall}
    (hrefuse : ∀ exception, (∃ value, refuse exception = .ret value) ∨
      ∃ raised, refuse exception = .raise raised)
    (hview : view.authorized = none ∧ view.registry.getD state.registry = state.registry)
    {post : Except PyExc PyValue → GateView → RunState → Prop}
    (hpost : ∀ outcome view state, post outcome view state) :
    (guardToolExecution platform binding approvalTokens coerce serialize refuse toolName
      call).Follows runMachine GateView.record (Enforces (ρ := ρ) binding toolName) post view
        state := by
  refine (follows_bind _ _).mpr ((follows_ofExcept _).mpr ?_)
  split
  next arguments _ =>
    refine (follows_tryExcept _ _).mpr ((follows_bind _ _).mpr ?_)
    refine executeClosure_enforces coerce (wrapExecute_enforces
      (guardedInput approvalTokens toolName call.toolCallId arguments) hview ?_)
    rintro (exception | wrapped) view state
    · rcases hrefuse exception with ⟨value, hvalue⟩ | ⟨raised, hraised⟩
      · simp only [hvalue]
        exact hpost _ _ _
      · simp only [hraised]
        exact hpost _ _ _
    · exact hpost _ _ _
  · exact hpost _ _ _

theorem refusalResult_cases (resultOf : String → PyValue) (exception : PyExc) :
    (∃ value, refusalResult resultOf exception = .ret value) ∨
      ∃ raised, refusalResult resultOf exception = .raise raised := by
  unfold refusalResult
  split
  · exact .inl ⟨_, rfl⟩
  · exact .inr ⟨_, rfl⟩

theorem framework_enforces (toolName : String) (framework : Framework) {call : IncomingCall}
    (hview : view.authorized = none ∧ view.registry.getD state.registry = state.registry)
    {post : Except PyExc PyValue → GateView → RunState → Prop}
    (hpost : ∀ outcome view state, post outcome view state) :
    (framework.guardToolExecution platform json binding approvalTokens toolName call).Follows
      runMachine GateView.record (Enforces (ρ := ρ) binding toolName) post view state := by
  cases framework with
  | openaiAgents => exact guardToolExecution_enforces (refusalResult_cases _) hview hpost
  | claudeAgents => exact guardToolExecution_enforces (refusalResult_cases _) hview hpost
  | microsoftAgentFramework =>
      exact guardToolExecution_enforces (refusalResult_cases _) hview hpost
  | crewai => exact guardToolExecution_enforces (refusalResult_cases _) hview hpost
  | pydanticAi =>
      refine guardToolExecution_enforces (fun exception => .inr ?_) hview hpost
      unfold PydanticAi.refuse
      split <;> exact ⟨_, rfl⟩
  | googleAdk =>
      refine guardToolExecution_enforces (fun exception => .inr ?_) hview hpost
      unfold GoogleAdk.refuse
      split <;> exact ⟨_, rfl⟩

/-- What a returned tool keeps to when it runs its handler. -/
def ReturnedTool.Keeps (binding : PaybondRunBinding) (returned : ReturnedTool) (view : GateView) :
    Prop :=
  match returned with
  | .raw _ => view.authorized = none
  | .guarded toolName => Sanctioned binding toolName view
  | .behindMiddleware name =>
      ∃ toolName, stripName name = some toolName ∧
        (Sanctioned binding toolName view ∨
          ∃ registry, Fresh view registry ∧ registry.isSideEffecting toolName = false)

abbrev gateRecorder : Recorder GateView Val PyExc FrameworkOutcome RunState where
  start := {}
  record := GateView.record

/-- Every call through a returned tool, seen alone. -/
abbrev gateProtocol (binding : PaybondRunBinding) :
    LocalSpec FrameworkTask GateView Val PyExc FrameworkOutcome RunState where
  toRecorder := gateRecorder
  allowed task view step :=
    match task with
    | .agent _ => True
    | .tool _ returned _ _ => RunsHandler step.event → returned.Keeps binding (view.record step)

/-- A handler that is run without being asked for authorizes nothing. -/
theorem follows_maybeAwait {invocation : Invocation} {allowed : GateView → Step Val PyExc ρ RunState → Prop}
    {post : Except PyExc PyValue → GateView → RunState → Prop} (Inv : GateView → Prop)
    (hrecord : ∀ (view : GateView) (step : Step Val PyExc ρ RunState), Inv view →
      authorizedTool? step.event = none → Inv (view.record step))
    (hallowed : ∀ view (step : Step Val PyExc ρ RunState), Inv (view.record step) → allowed view step)
    (hpost : ∀ outcome view state, post outcome view state) (hview : Inv view) :
    (maybeAwait invocation).Follows runMachine GateView.record allowed post view state := by
  refine (follows_bind _ _).mpr ((follows_host rfl).mpr fun answer => ?_)
  have hinvoked := hrecord view ⟨state, .completed (.host (.execute invocation)) answer⟩ hview rfl
  refine ⟨hallowed _ _ hinvoked, ?_⟩
  cases answer with
  | error exception => exact hpost _ _ _
  | ok returned =>
      cases returned with
      | value result => exact hpost _ _ _
      | awaitable =>
          refine (follows_await rfl).mpr ?_
          have hissued := hrecord _ ⟨state, .issued (.host (.awaitHandler invocation))⟩ hinvoked rfl
          refine ⟨hallowed _ _ hissued, fun resumed result => ⟨?_, hpost _ _ _⟩⟩
          exact hallowed _ _ (hrecord _ _ hissued rfl)

theorem callTool_obeys {framework : Framework} {returned : ReturnedTool} {call : IncomingCall} :
    (callTool platform json binding approvalTokens framework returned call).Follows runMachine
      GateView.record ((gateProtocol binding).allowed
        (.tool framework returned call approvalTokens)) (fun _ _ _ => True) {} state := by
  cases returned with
  | raw toolName =>
      refine follows_maybeAwait (·.authorized = none) (fun view step hnone hquiet => ?_)
        (fun view step hnone _ => hnone) (fun _ _ _ => trivial) rfl
      simp [GateView.record, hnone, hquiet]
  | guarded toolName =>
      refine (framework_enforces toolName framework ⟨rfl, rfl⟩
        fun _ _ _ => trivial).mono (fun view step henforces hruns => henforces hruns)
          fun _ _ _ _ => trivial
  | behindMiddleware name =>
      refine (follows_bind _ _).mpr ((follows_ofExcept _).mpr ?_)
      unfold MicrosoftAgentFramework.resolveToolName resolveToolName
      cases hname : stripName name with
      | none => exact trivial
      | some toolName =>
          refine (follows_bind _ _).mpr (follows_access.mpr fun elapsed => ⟨fun h => h.elim, ?_⟩)
          have hfresh : Fresh (GateView.record (ρ := FrameworkOutcome) {} ⟨state, .completed
              (.access .readRegistry) (.ok (Access.run elapsed state .readRegistry).1)⟩)
                state.registry := ⟨rfl, rfl⟩
          dsimp only [Access.run]
          split
          · refine (framework_enforces toolName .microsoftAgentFramework
              ⟨hfresh.authorized_eq, by rw [hfresh.registry_eq]; rfl⟩ fun _ _ _ => trivial).mono ?_
                fun _ _ _ _ => trivial
            exact fun view step henforces hruns => ⟨toolName, hname, .inl (henforces hruns)⟩
          next hpasses =>
            refine follows_maybeAwait (Fresh · state.registry)
              (fun view step hfresh hquiet => hfresh.record hquiet) ?_ (fun _ _ _ => trivial) hfresh
            intro view step hkept hruns
            exact ⟨toolName, hname, .inr ⟨state.registry, hkept, by simpa using hpasses⟩⟩

abbrev FrameworkEntry := Entry FrameworkTask Val PyExc FrameworkOutcome RunState

theorem frameworkProgram_obeys (task : FrameworkTask) :
    (frameworkProgram platform json binding task).Obeys runMachine (gateProtocol binding) task := by
  intro state
  cases task with
  | agent call => exact .of_forall (fun _ _ => trivial) fun _ _ _ => trivial
  | tool framework returned call approvalTokens =>
      refine (follows_bind _ _).mpr (callTool_obeys.weaken_post ?_)
      rintro (exception | result) view state -
      · exact fun hruns => hruns.elim
      · exact fun hruns => hruns.elim

end Tools

/-! ## The decision and the tools of a framework -/

namespace FrameworkTool

/-- The name that the adapter looks up. -/
def knownAs : FrameworkTool → String
  | .openaiAgents name => name
  | .claudeAgents name _ | .microsoftAgentFramework name | .crewai name _ | .pydanticAi name _ =>
      (stripName name).getD ""
  | .googleAdk name function => (stripName ((stripName name).or function.join)).getD ""

/-- The tool is side-effecting when its adapter looks: while it is wrapped, or in each call. -/
def GuardedUnder (tool : FrameworkTool) (atWrap atCall : PaybondToolRegistry) : Prop :=
  match tool with
  | .microsoftAgentFramework _ => atCall.isSideEffecting tool.knownAs = true
  | _ => atWrap.isSideEffecting tool.knownAs = true

end FrameworkTool

section Claim

variable {atWrap : PaybondToolRegistry} {tool : FrameworkTool} {returned : ReturnedTool}

theorem resolveToolName_eq_ok {failure : String} {name : Option String} {toolName : String}
    (hname : resolveToolName failure name = .ok toolName) : (stripName name).getD "" = toolName := by
  unfold resolveToolName at hname
  cases hstrip : stripName name with
  | none =>
      rw [hstrip] at hname
      cases hname
  | some stripped =>
      rw [hstrip] at hname
      cases hname
      rfl

theorem guardIfSideEffecting_eq_ok {toolName : String} {callable : Except PyExc Unit}
    (hguard : guardIfSideEffecting atWrap toolName callable = .ok returned) :
    returned = if atWrap.isSideEffecting toolName then .guarded toolName else .raw toolName := by
  unfold guardIfSideEffecting at hguard
  split at hguard
  next hside =>
    obtain ⟨-, -, hreturned⟩ := except_bind_eq_ok.mp hguard
    rw [if_pos hside]
    exact (Except.ok.inj hreturned).symm
  next hside =>
    rw [if_neg hside]
    exact (Except.ok.inj hguard).symm

/-- All adapters but the middleware settle while they wrap what becomes of a tool. -/
theorem wrapTool_eq_ok (hwrapped : wrapTool atWrap tool = .ok returned) :
    (∃ name, tool = .microsoftAgentFramework name ∧ returned = .behindMiddleware name) ∨
      (∀ atCall, tool.GuardedUnder atWrap atCall ↔ atWrap.isSideEffecting tool.knownAs = true) ∧
        returned = if atWrap.isSideEffecting tool.knownAs then .guarded tool.knownAs
          else .raw tool.knownAs := by
  cases tool with
  | openaiAgents name => exact .inr ⟨fun _ => Iff.rfl, guardIfSideEffecting_eq_ok hwrapped⟩
  | microsoftAgentFramework name => exact .inl ⟨name, rfl, (Except.ok.inj hwrapped).symm⟩
  | claudeAgents name callableHandler =>
      obtain ⟨toolName, hname, hguard⟩ := except_bind_eq_ok.mp hwrapped
      obtain ⟨resolved, hresolved, hrest⟩ := except_bind_eq_ok.mp hname
      obtain ⟨-, -, htoolName⟩ := except_bind_eq_ok.mp hrest
      obtain rfl : resolved = toolName := Except.ok.inj htoolName
      have hknown : FrameworkTool.knownAs (.claudeAgents name callableHandler) = resolved :=
        resolveToolName_eq_ok hresolved
      rw [hknown]
      exact .inr ⟨fun _ => by simp [FrameworkTool.GuardedUnder, hknown],
        guardIfSideEffecting_eq_ok hguard⟩
  | crewai name body =>
      obtain ⟨toolName, hname, hguard⟩ := except_bind_eq_ok.mp hwrapped
      have hknown : FrameworkTool.knownAs (.crewai name body) = toolName :=
        resolveToolName_eq_ok hname
      rw [hknown]
      exact .inr ⟨fun _ => by simp [FrameworkTool.GuardedUnder, hknown],
        guardIfSideEffecting_eq_ok hguard⟩
  | pydanticAi name callableFunction =>
      obtain ⟨toolName, hname, hguard⟩ := except_bind_eq_ok.mp hwrapped
      have hknown : FrameworkTool.knownAs (.pydanticAi name callableFunction) = toolName :=
        resolveToolName_eq_ok hname
      rw [hknown]
      exact .inr ⟨fun _ => by simp [FrameworkTool.GuardedUnder, hknown],
        guardIfSideEffecting_eq_ok hguard⟩
  | googleAdk name function =>
      obtain ⟨toolName, hname, hguard⟩ := except_bind_eq_ok.mp hwrapped
      have hknown : FrameworkTool.knownAs (.googleAdk name function) = toolName :=
        resolveToolName_eq_ok hname
      rw [hknown]
      exact .inr ⟨fun _ => by simp [FrameworkTool.GuardedUnder, hknown],
        guardIfSideEffecting_eq_ok hguard⟩

variable {binding : PaybondRunBinding} {toolName : String} {registry : PaybondToolRegistry}

/-- What may run is side-effecting or passes through. -/
theorem LetsRun.cases {authorized : Option String}
    (hlets : LetsRun binding toolName registry authorized) :
    registry.isSideEffecting (pyStrip toolName) = true ∨
      PassesThrough binding toolName registry := by
  obtain ⟨hname, hlets⟩ := hlets
  cases hresolved : registry.resolveTool (pyStrip toolName) (some binding.allowedTools) with
  | passthrough name =>
      exact .inr ⟨hname, PaybondToolRegistry.resolveTool_passthrough hresolved⟩
  | denied name operation =>
      rw [hresolved] at hlets
      exact hlets.elim
  | sideEffecting name operation entry =>
      obtain ⟨-, hentry⟩ := PaybondToolRegistry.resolveTool_eq_sideEffecting hresolved
      exact .inl (by simp [PaybondToolRegistry.isSideEffecting, OrderedDict.contains, hentry])

theorem pyStrip_of_stripName {name : Option String} (hname : stripName name = some toolName) :
    pyStrip toolName = toolName := by
  unfold stripName truthyStr at hname
  obtain ⟨hmap, -⟩ := Option.filter_eq_some_iff.mp hname
  obtain ⟨raw, -, rfl⟩ := Option.map_eq_some_iff.mp hmap
  exact pyStrip_pyStrip raw

/-- When a handler runs, the interceptor would run it exactly when the tool was side-effecting
as its adapter looked, or passes through. -/
theorem letsRun_iff (platform : Platform) (json : JsonText) (binding : PaybondRunBinding)
    (init : RunState) (actions : List (Action FrameworkTask runMachine))
    {first second : List FrameworkEntry} {step : FrameworkEntry} {call : IncomingCall}
    {approvalTokens : OrderedDict String String}
    (hwrapped : wrapTool atWrap tool = .ok returned)
    (htrace : (runFramework platform json binding init actions).trace = first ++ step :: second)
    (hcall : step.call = .tool tool.framework returned call approvalTokens)
    (hruns : RunsHandler step.event) :
    let view := (gateRecorder.view first step.task).record step.toStep
    ∃ atCall, view.registry = some atCall ∧
      (LetsRun binding tool.knownAs atCall view.authorized ↔
        tool.GuardedUnder atWrap atCall ∨ PassesThrough binding tool.knownAs atCall) := by
  intro view
  have hbehaves := (Loop.run_sound (@frameworkProgram_obeys platform json binding) init
    actions).behaves
  obtain ⟨-, -, -, hallowed⟩ := hbehaves.split htrace
  obtain ⟨⟨before, event⟩, task, frameworkTask⟩ := step
  obtain rfl : frameworkTask = _ := hcall
  have hkeeps : returned.Keeps binding view := hallowed hruns
  obtain ⟨atCall, hregistry⟩ : ∃ atCall, view.registry = some atCall := by
    cases hbound : (gateRecorder.view first task).registry with
    | none => exact ⟨before.registry, by simp [view, GateView.record, hbound]⟩
    | some bound => exact ⟨bound, by simp [view, GateView.record, hbound]⟩
  have hlets : ∀ toolName, Sanctioned binding toolName view →
      LetsRun binding toolName atCall view.authorized := by
    rintro toolName ⟨bound, hbound, hlets⟩
    rwa [Option.some.inj (hregistry.symm.trans hbound)]
  refine ⟨atCall, hregistry, ?_⟩
  rcases wrapTool_eq_ok hwrapped with ⟨name, rfl, rfl⟩ | ⟨hguarded, hreturned⟩
  · obtain ⟨toolName, hname, hcases⟩ := hkeeps
    have hknown : FrameworkTool.knownAs (.microsoftAgentFramework name) = toolName := by
      rw [FrameworkTool.knownAs, hname, Option.getD_some]
    simp only [FrameworkTool.GuardedUnder, hknown]
    rcases hcases with hsanctioned | ⟨bound, hfresh, hside⟩
    · have hlets := hlets toolName hsanctioned
      have hcases := hlets.cases
      rw [pyStrip_of_stripName hname] at hcases
      exact iff_of_true hlets hcases
    · obtain rfl : atCall = bound := Option.some.inj (hregistry.symm.trans hfresh.registry_eq)
      rw [hfresh.authorized_eq, letsRun_none_iff, hside]
      simp
  · rw [hreturned] at hkeeps
    rw [hguarded]
    cases hside : atWrap.isSideEffecting tool.knownAs with
    | true =>
        rw [hside, if_pos rfl] at hkeeps
        exact iff_of_true (hlets tool.knownAs hkeeps) (.inl rfl)
    | false =>
        rw [hside, if_neg Bool.false_ne_true] at hkeeps
        have hnone : view.authorized = none := hkeeps
        rw [hnone, letsRun_none_iff]
        simp

end Claim

/-! ## A tool with the name of an operation -/

def jsonTravel : JsonText where
  loads _ := .error "Expecting value"
  floatText _ := .ofInt 0

def hotelCall : IncomingCall where
  toolCallId := "call"
  arguments := .ok (.dict [])

/-- A call through a tool that the OpenAI Agents adapter has returned. -/
def openaiActions (returned : ReturnedTool) : List (Action FrameworkTask runMachine) :=
  [.start (.tool .openaiAgents returned hotelCall .empty) (hostChoices (decidingHost "decision")),
    .resume 0 (hostChoices (decidingHost "decision"))]

def openaiTrace (registry : PaybondToolRegistry) (returned : ReturnedTool) : List FrameworkEntry :=
  (runFramework platformTravel jsonTravel bindingTravel (.bind registry none)
    (openaiActions returned)).trace

theorem letsRun_iff_hotel :
    ∃ first step second,
      openaiTrace registryTravel (.guarded "travel.book_hotel") = first ++ step :: second ∧
        RunsHandler step.event ∧ ∃ atCall, LetsRun bindingTravel "travel.book_hotel" atCall
          ((gateRecorder.view first step.task).record step.toStep).authorized := by
  have hruns : ∃ step ∈ openaiTrace registryTravel (.guarded "travel.book_hotel"),
      RunsHandler step.event ∧ step.task = 0 := by
    decide +kernel
  obtain ⟨step, hmem, hruns, htask⟩ := hruns
  have hcall : step.call = .tool .openaiAgents (.guarded "travel.book_hotel") hotelCall .empty :=
    (Loop.run_sound (@frameworkProgram_obeys platformTravel jsonTravel bindingTravel)
      (.bind registryTravel none) (openaiActions (.guarded "travel.book_hotel"))).calls 0
        ⟨.tool _ _ _ _, _⟩ rfl step hmem htask
  obtain ⟨first, second, htrace⟩ := List.append_of_mem hmem
  have hwrapped : wrapTool registryTravel (.openaiAgents "travel.book_hotel") =
      .ok (.guarded "travel.book_hotel") := rfl
  obtain ⟨atCall, -, hiff⟩ := letsRun_iff platformTravel jsonTravel bindingTravel
    (.bind registryTravel none) (openaiActions (.guarded "travel.book_hotel")) hwrapped htrace
      hcall hruns
  exact ⟨first, step, second, htrace, hruns, atCall, hiff.mpr (.inl rfl)⟩

/-- The booking tool is registered under a name of its own. -/
def registryRenamed : PaybondToolRegistry where
  defaultDeny := true
  sideEffecting := .ofList [("book_hotel",
    { toolName := "book_hotel", operation := "travel.book_hotel"
      evidencePreset := "cost_and_completion", spendCents := some (.cents 15000) })]

/-- The registry denies a tool that is named like the operation, and the adapter returns it as
it is. -/
theorem openai_runs_denied :
    wrapTool registryRenamed (.openaiAgents "travel.book_hotel") =
        .ok (.raw "travel.book_hotel") ∧
      (∀ authorized, ¬LetsRun bindingTravel "travel.book_hotel" registryRenamed authorized) ∧
      ∃ step ∈ openaiTrace registryRenamed (.raw "travel.book_hotel"),
        RunsHandler step.event := by
  refine ⟨rfl, ?_, by decide +kernel⟩
  rintro authorized ⟨-, hlets⟩
  have hdenied : registryRenamed.resolveTool (pyStrip "travel.book_hotel")
      (some bindingTravel.allowedTools) = .denied "travel.book_hotel" "travel.book_hotel" := by
    decide
  rw [hdenied] at hlets
  exact hlets

end PaybondKit.Adapters
