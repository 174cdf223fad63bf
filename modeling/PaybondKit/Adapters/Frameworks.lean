import PaybondKit.Adapters.Arguments
import PaybondKit.Agent.Calls
import PaybondKit.Foundation.Answers
import PaybondKit.Foundation.PyJson

/-!
# The framework adapters

Six adapters put the interceptor of a run in front of the tools of an agent framework. Five
look at the registry when they wrap a tool; the middleware of the Microsoft Agent Framework
looks at it in every call. A guarded call runs the original handler within `wrap_execute`,
and turns what Paybond refuses into what the framework shows to the model.
-/

namespace PaybondKit.Adapters

open Agent

open Coroutine (ofExcept tryExcept)

/-- The JSON texts of the platform; `loads` yields the message of a `JSONDecodeError`. -/
structure JsonText where
  loads : String → Except String PyValue
  floatText : PyFloat → JsonNumber

namespace JsonText

variable (json : JsonText)

/-- `json.dumps(value)`. -/
def dumps (value : PyValue) : String :=
  String.ofList ((value.toJson json.floatText).print defaultStyle)

/-- A text that is JSON, decoded, when the adapter keeps the decoded value. -/
def coerce (keeps : PyValue → Bool) : PyValue → PyValue
  | .str raw =>
      match json.loads raw with
      | .ok parsed => if keeps parsed then parsed else .str raw
      | .error _ => .str raw
  | raw => raw

end JsonText

def typeError (message : String) : PyExc := .other "TypeError" message

/-- `isinstance(value, dict)`. -/
def isDict : PyValue → Bool
  | .dict _ => true
  | _ => false

/-- The exceptions that every adapter but Pydantic AI's and ADK's turns into a result. -/
def isPaybondRefusal : PyExc → Bool
  | .unregisteredSideEffectingTool _ _ | .spendApprovalRequired _ | .spendDenied _
  | .evidenceSubmit _ _ => true
  | _ => false

/-- `_paybond_error_message`. -/
def paybondErrorMessage (exception : PyExc) : String :=
  match exception with
  | .unregisteredSideEffectingTool _ _ =>
      s!"Paybond capability denied: unregistered side-effecting tool ({exception.str})"
  | .spendApprovalRequired result =>
      let suffix := result.decisionId.elim "" fun decisionId => s!" (decision_id={decisionId})"
      "Paybond capability approval required: " ++ resultReason result "approval required" ++ suffix
  | .spendDenied result =>
      "Paybond capability denied: " ++ resultReason result "capability denied"
  | .evidenceSubmit _ _ => s!"Paybond evidence submit failed: {exception.str}"
  | _ => exception.str

/-! ## Guarded calls -/

/-- What a wrapper has read of the call of its framework. -/
structure IncomingCall where
  toolCallId : String
  arguments : Except PyExc PyValue

section Guarded

variable (platform : Platform) (binding : PaybondRunBinding)
variable (approvalTokens : OrderedDict String String)

/-- `get_approval_token`. -/
def getApprovalToken (toolCallId : String) : Option String :=
  approvalTokens.get? (pyStrip toolCallId)

def guardedInput (toolName : String) (toolCallId : String) (arguments : PyValue) :
    ToolCallInput where
  toolName := toolName
  toolCallId := toolCallId
  arguments := arguments
  approvalToken := getApprovalToken approvalTokens toolCallId

/-- The answers to the interceptor when its `execute` is a coroutine that awaits the handler
and adapts its result. -/
def executeClosure (coerce : PyValue → PyValue) :
    (op : Op) → Except PyExc (Val op) → Except PyExc (Val op)
  | .host (.execute _), _ => .ok .awaitable
  | .host (.awaitHandler _), answer => answer.map coerce
  | _, answer => answer

/-- What the adapters share: the interceptor's call, the result for the framework, and what
becomes of the exceptions. -/
def guardToolExecution (coerce serialize : PyValue → PyValue)
    (refuse : PyExc → Routine PyValue) (toolName : String) (call : IncomingCall) :
    Routine PyValue := do
  let arguments ← ofExcept call.arguments
  tryExcept
    (do
      let wrapped ← (wrapExecute platform binding
        (guardedInput approvalTokens toolName call.toolCallId arguments)).mapAnswers
          (executeClosure coerce)
      return serialize wrapped.toolResult)
    refuse

end Guarded

/-- The `except` clause that turns a refusal into a result. -/
def refusalResult (resultOf : String → PyValue) (exception : PyExc) : Routine PyValue :=
  if isPaybondRefusal exception then return resultOf (paybondErrorMessage exception)
  else raise exception

namespace OpenaiAgents

variable (json : JsonText)

/-- `_coerce_tool_result`. -/
def coerceToolResult : PyValue → PyValue := json.coerce fun _ => true

/-- `_serialize_tool_result`. -/
def serializeToolResult (result : PyValue) : PyValue :=
  match result with
  | .dict _ | .list _ => .str (json.dumps result)
  | .none => .str ""
  | _ => result

/-- `_parse_tool_arguments`. -/
def parseToolArguments (raw : String) : Except PyExc PyValue :=
  if pyStrip raw = "" then .ok (.dict [])
  else
    match json.loads raw with
    | .ok arguments => .ok arguments
    | .error message => .error (.other "JSONDecodeError" message)

/-- `args if isinstance(args, dict) else {"value": args}`. -/
def wrapValue (args : PyValue) : PyValue :=
  if isDict args then args else .dict [("value", args)]

/-- `guarded_on_invoke_tool` up to the guard. The context may carry no tool call id. -/
def incomingCall (toolCallId : Option String) (inputJson uuid : String) : IncomingCall where
  toolCallId := (truthyStr toolCallId).getD uuid
  arguments := wrapValue <$> parseToolArguments json inputJson

end OpenaiAgents

namespace ClaudeAgents

variable (platform : Platform) (json : JsonText)

/-- `_resolve_claude_tool_call_id`. -/
def resolveClaudeToolCallId (extra : PyValue) (uuid : String) : String :=
  let keys := ["toolUseID", "tool_use_id", "toolCallId", "tool_call_id", "id"]
  (keys.findSome? fun key =>
    truthyStr ((extra.getItem key).asStr.map pyStrip)).getD uuid

/-- The first text block that is not blank. -/
def firstText (content : List PyValue) : Option String :=
  content.findSome? fun block =>
    if (block.getItem "type").asStr = some "text" then
      (block.getItem "text").asStr.filter (pyStrip · ≠ "")
    else none

/-- `_extract_call_tool_result_payload`. -/
def extractCallToolResultPayload (result : PyValue) : PyValue :=
  if isDict (result.getItem "structuredContent") then result.getItem "structuredContent"
  else
    match result.getItem "content" with
    | .list content =>
        match firstText content with
        | some text => ((json.loads text).toOption).getD (.dict [("text", .str text)])
        | none => result
    | _ => result

def textBlock (text : String) : PyValue :=
  .list [.dict [("type", .str "text"), ("text", .str text)]]

/-- `_to_call_tool_result`. -/
def toCallToolResult (payload : PyValue) : PyValue :=
  match payload with
  | .dict items =>
      if (OrderedDict.ofList items).contains "content" then payload
      else .dict [("content", textBlock (json.dumps payload)), ("structuredContent", payload)]
  | .none => .dict [("content", textBlock "")]
  | .str text => .dict [("content", textBlock text)]
  | _ => .dict [("content", textBlock (platform.pyStr payload))]

/-- `_paybond_error_call_tool_result`. -/
def paybondErrorCallToolResult (message : String) : PyValue :=
  .dict [("content", textBlock message), ("isError", .bool true)]

def incomingCall (args extra : PyValue) (uuid : String) : IncomingCall where
  toolCallId := resolveClaudeToolCallId extra uuid
  arguments := .ok (OpenaiAgents.wrapValue args)

end ClaudeAgents

namespace MicrosoftAgentFramework

/-- The arguments of an invocation: a mapping or nothing, a model whose dump is a mapping, or
something else. -/
inductive InvocationArguments where
  | none
  | mapping (items : OrderedDict String PyValue)
  | model (dumped : OrderedDict String PyValue)
  | other

/-- `_normalize_arguments`. -/
def normalizeArguments : InvocationArguments → Except PyExc PyValue
  | .none => .ok (.dict [])
  | .mapping items | .model items => .ok (.dict items.items)
  | .other => .error (typeError
      "Microsoft Agent Framework tool arguments must be a Mapping or Pydantic BaseModel")

/-- `_resolve_tool_call_id`. -/
def resolveToolCallId (metadata : PyValue) (uuid : String) : String :=
  (truthyStr ((metadata.getItem "call_id").asStr.map pyStrip)).getD uuid

def incomingCall (metadata : PyValue) (arguments : InvocationArguments) (uuid : String) :
    IncomingCall where
  toolCallId := resolveToolCallId metadata uuid
  arguments := normalizeArguments arguments

end MicrosoftAgentFramework

namespace Crewai

variable (json : JsonText)

/-- `_coerce_crewai_tool_result`. -/
def coerceCrewaiToolResult : PyValue → PyValue := json.coerce isDict

/-- `_serialize_crewai_tool_result`. -/
def serializeCrewaiToolResult (result : PyValue) : PyValue :=
  match result with
  | .dict _ | .list _ => .str (json.dumps result)
  | _ => result

/-- A guarded function or method: every invocation has an id of its own. -/
def incomingCall (guarded : GuardedCall) (uuid : String) : IncomingCall where
  toolCallId := uuid
  arguments := .ok guarded.given.toPyValue

end Crewai

namespace PydanticAi

/-- `_coerce_tool_result`. -/
def coerceToolResult (json : JsonText) : PyValue → PyValue := json.coerce isDict

/-- The `except` clauses: `ModelRetry` for what the model can try again. -/
def refuse (exception : PyExc) : Routine PyValue :=
  match exception with
  | .spendApprovalRequired _ | .spendDenied _ | .evidenceSubmit _ _ =>
      raise (.other "ModelRetry" (paybondErrorMessage exception))
  | _ => raise exception

def incomingCall (guarded : GuardedCall) (uuid : String) : IncomingCall where
  toolCallId := uuid
  arguments := .ok guarded.given.toPyValue

end PydanticAi

namespace GoogleAdk

/-- `_coerce_tool_result`. -/
def coerceToolResult (json : JsonText) : PyValue → PyValue := json.coerce isDict

/-- The `except` clauses: a `RuntimeError` with the message. -/
def refuse (exception : PyExc) : Routine PyValue :=
  match exception with
  | .spendApprovalRequired _ | .spendDenied _ | .evidenceSubmit _ _ =>
      raise (.runtimeError (paybondErrorMessage exception))
  | _ => raise exception

def incomingCall (guarded : GuardedCall) (call : Call CallValue) (uuid : String) :
    IncomingCall where
  toolCallId := toolCallIdFromInvocation call uuid
  arguments := .ok guarded.given.toPyValue

end GoogleAdk

/-! ## Tools -/

/-- What a CrewAI tool offers to be called. -/
inductive CrewaiBody where
  | func
  | baseTool
  | neither
  deriving DecidableEq, Repr

/-- A tool of each framework, as far as its adapter looks at it. A name is `none` when the
attribute is no string. -/
inductive FrameworkTool where
  | openaiAgents (name : String)
  | claudeAgents (name : Option String) (callableHandler : Bool)
  | microsoftAgentFramework (name : Option String)
  | crewai (name : Option String) (body : CrewaiBody)
  | pydanticAi (name : Option String) (callableFunction : Bool)
  /-- The function comes with its `__name__`. -/
  | googleAdk (name : Option String) (function : Option (Option String))
  deriving DecidableEq, Repr

/-- What an adapter gives back for a tool: the tool itself, a tool whose handler is guarded, or
the tool with a middleware in front of it. -/
inductive ReturnedTool where
  | raw (toolName : String)
  | guarded (toolName : String)
  | behindMiddleware (name : Option String)
  deriving DecidableEq, Repr

/-- A name that is a string and not blank, stripped. -/
def stripName (name : Option String) : Option String := truthyStr (name.map pyStrip)

/-- The name that the adapter knows the tool by. -/
def ReturnedTool.toolName : ReturnedTool → String
  | .raw toolName | .guarded toolName => toolName
  | .behindMiddleware name => (stripName name).getD ""

/-- `_resolve_tool_name`. -/
def resolveToolName (failure : String) (name : Option String) : Except PyExc String :=
  (stripName name).elim (.error (typeError failure)) .ok

def Crewai.resolveToolName : Option String → Except PyExc String :=
  Adapters.resolveToolName "each CrewAI tool must expose a non-empty name"

def PydanticAi.resolveToolName : Option String → Except PyExc String :=
  Adapters.resolveToolName "each Pydantic AI tool must expose a non-empty name"

def GoogleAdk.resolveToolName (name : Option String) (function : Option (Option String)) :
    Except PyExc String :=
  Adapters.resolveToolName "each Google ADK tool must expose a non-empty name"
    ((stripName name).or function.join)

def MicrosoftAgentFramework.resolveToolName : Option String → Except PyExc String :=
  Adapters.resolveToolName "FunctionInvocationContext.function must expose a non-empty name"

/-- `_assert_claude_agent_sdk_tools`. -/
def ClaudeAgents.assertClaudeAgentSdkTool (name : Option String) (callableHandler : Bool) :
    Except PyExc String := do
  let toolName ← resolveToolName "each claude-agents tool must have a non-empty name" name
  raiseIf (callableHandler = false)
    (typeError "each claude-agents tool must have a handler callable")
  return toolName

/-- `if not run.registry.is_side_effecting(name): return tool`, and else the guarded tool,
unless it cannot be called. -/
def guardIfSideEffecting (registry : PaybondToolRegistry) (toolName : String)
    (callable : Except PyExc Unit) : Except PyExc ReturnedTool :=
  if registry.isSideEffecting toolName then do
    callable
    return .guarded toolName
  else return .raw toolName

/-- The tool that an adapter returns, under the registry that is bound while it wraps. -/
def wrapTool (registry : PaybondToolRegistry) : FrameworkTool → Except PyExc ReturnedTool
  | .openaiAgents name => guardIfSideEffecting registry name (.ok ())
  | .claudeAgents name callableHandler => do
      let toolName ← ClaudeAgents.assertClaudeAgentSdkTool name callableHandler
      guardIfSideEffecting registry toolName (.ok ())
  | .microsoftAgentFramework name => .ok (.behindMiddleware name)
  | .crewai name body => do
      let toolName ← Crewai.resolveToolName name
      guardIfSideEffecting registry toolName <| raiseIf (body = .neither) <| typeError
        ("each CrewAI tool must be a BaseTool instance or an @tool-decorated tool with " ++
          "func/_run")
  | .pydanticAi name callableFunction => do
      let toolName ← PydanticAi.resolveToolName name
      guardIfSideEffecting registry toolName <| raiseIf (callableFunction = false) <| typeError
        ("each Pydantic AI tool must be a Tool instance or callable with an executable " ++
          "function")
  | .googleAdk name function => do
      let toolName ← GoogleAdk.resolveToolName name function
      guardIfSideEffecting registry toolName <| raiseIf (function = none) <| typeError
        "each Google ADK tool must be a FunctionTool instance or callable with an executable func"

/-! ## Calls through the returned tools -/

inductive Framework where
  | openaiAgents
  | claudeAgents
  | microsoftAgentFramework
  | crewai
  | pydanticAi
  | googleAdk
  deriving DecidableEq, Repr

def FrameworkTool.framework : FrameworkTool → Framework
  | .openaiAgents _ => .openaiAgents
  | .claudeAgents _ _ => .claudeAgents
  | .microsoftAgentFramework _ => .microsoftAgentFramework
  | .crewai _ _ => .crewai
  | .pydanticAi _ _ => .pydanticAi
  | .googleAdk _ _ => .googleAdk

section Calls

variable (platform : Platform) (json : JsonText) (binding : PaybondRunBinding)
variable (approvalTokens : OrderedDict String String)

/-- `_guard_tool_execution` of each adapter. -/
def Framework.guardToolExecution (framework : Framework) :
    String → IncomingCall → Routine PyValue :=
  match framework with
  | .openaiAgents => Adapters.guardToolExecution platform binding approvalTokens
      (OpenaiAgents.coerceToolResult json) (OpenaiAgents.serializeToolResult json)
      (refusalResult .str)
  | .claudeAgents => Adapters.guardToolExecution platform binding approvalTokens
      (ClaudeAgents.extractCallToolResultPayload json) (ClaudeAgents.toCallToolResult platform json)
      (refusalResult ClaudeAgents.paybondErrorCallToolResult)
  | .microsoftAgentFramework => Adapters.guardToolExecution platform binding approvalTokens
      id id (refusalResult .str)
  | .crewai => Adapters.guardToolExecution platform binding approvalTokens
      (Crewai.coerceCrewaiToolResult json) (Crewai.serializeCrewaiToolResult json)
      (refusalResult .str)
  | .pydanticAi => Adapters.guardToolExecution platform binding approvalTokens
      (PydanticAi.coerceToolResult json) id PydanticAi.refuse
  | .googleAdk => Adapters.guardToolExecution platform binding approvalTokens
      (GoogleAdk.coerceToolResult json) id GoogleAdk.refuse

/-- `process_paybond_function_invocation`. -/
def processPaybondFunctionInvocation (name : Option String) (call : IncomingCall) :
    Routine PyValue := do
  let toolName ← ofExcept (MicrosoftAgentFramework.resolveToolName name)
  let registry ← access .readRegistry
  if registry.isSideEffecting toolName then
    Framework.guardToolExecution platform json binding approvalTokens .microsoftAgentFramework
      toolName call
  else maybeAwait (.passthrough toolName call.toolCallId)

/-- A call through a returned tool. -/
def callTool (framework : Framework) (tool : ReturnedTool) (call : IncomingCall) :
    Routine PyValue :=
  match tool with
  | .raw toolName => maybeAwait (.passthrough toolName call.toolCallId)
  | .guarded toolName =>
      framework.guardToolExecution platform json binding approvalTokens toolName call
  | .behindMiddleware name =>
      processPaybondFunctionInvocation platform json binding approvalTokens name call

end Calls

end PaybondKit.Adapters
