import PaybondKit.Agent.Runtime

/-!
# The spend guard and the LangGraph capability wrapper

Both wrap a handler: Harbor is asked first, and the reservation is finalized when
the handler is done. The interceptor finalizes in the same way.
-/

namespace PaybondKit.Agent

open Coroutine

/-- `assert_spend_authorized`. -/
def assertSpendAuthorized (request : SpendRequest) : Routine VerifyCapabilityResult := do
  let result ← host (.verifyCapability request)
  if result.allow then return result
  else if result.approvalRequired then raise (.spendApprovalRequired result)
  else raise (.spendDenied result)

/-- `await _maybe_await(handler(...))`. -/
def maybeAwait (invocation : Invocation) : Routine PyValue := do
  match ← host (.execute invocation) with
  | .value result => return result
  | .awaitable => host (.awaitHandler invocation)

/-- `if decision_id is not None: action`. -/
def withDecision (decisionId : Option String) (action : String → Routine Unit) : Routine Unit :=
  match decisionId with
  | some decisionId => action decisionId
  | none => return ()

/-- `try: body except Exception:` release the reservation, ignore what the release
raises, and `raise`. -/
def releaseOnException {α : Type} (decisionId : Option String) (body : Routine α)
    (release : String → Routine Unit) : Routine α :=
  tryExcept body fun exception =>
    if exception.isException then do
      withDecision decisionId fun decisionId =>
        tryExcept (release decisionId) fun failure =>
          if failure.isException then return () else raise failure
      raise exception
    else raise exception

/-- The coroutine that `guard_tool` returns. -/
def guardTool (request : SpendRequest) : Routine PyValue := do
  let auth ← assertSpendAuthorized request
  let body : Routine PyValue := do
    let out ← maybeAwait (.guarded request.operation request.requestedSpendCents)
    withDecision auth.decisionId fun decisionId => host (.completeSpend decisionId .consumed)
    return out
  releaseOnException auth.decisionId body fun decisionId =>
    host (.completeSpend decisionId .released)

/-! ## LangGraph -/

/-- `SpendResolver`: a fixed amount, or a function of the request. -/
inductive SpendResolver where
  | cents (value : Int)
  | resolver (callback : Callback)
  deriving DecidableEq, Repr

/-- A tool-call request, with the spend resolver of the wrapper. -/
structure LangGraphToolCall where
  name : String
  id : String
  args : PyValue
  requestedSpendCents : SpendResolver := .cents 0

inductive LangGraphResult where
  | toolMessage (name toolCallId content : String)
  | result (value : PyValue)

/-- `_resolve_spend_cents`. -/
def resolveLangGraphSpend (call : LangGraphToolCall) : Routine Int :=
  match call.requestedSpendCents with
  | .cents value => return value
  | .resolver callback => do
      match ← host (.resolveSpendCents callback call.args) with
      | some value => return value
      | none => raise (.other "TypeError" "int() argument must be a real number, not NoneType")

/-- The deny message for a result that does not allow. -/
def denyToolMessage (name toolCallId : String) (result : VerifyCapabilityResult) :
    LangGraphResult :=
  let reason := resultReason result "capability denied"
  if result.approvalRequired then
    let suffix := result.decisionId.elim "" fun decisionId => s!" (decision_id={decisionId})"
    .toolMessage name toolCallId s!"Paybond capability approval required: {reason}{suffix}"
  else .toolMessage name toolCallId s!"Paybond capability denied: {reason}"

/-- The coroutine that `paybond_awrap_tool_call_capability` returns. -/
def awrapToolCallCapability (call : LangGraphToolCall) : Routine LangGraphResult := do
  let name := pyStrip call.name
  let toolCallId := pyStrip call.id
  if name = "" then
    return .toolMessage "unknown" toolCallId "Paybond: tool call missing name"
  else
    let resolvedSpend ← resolveLangGraphSpend call
    let result ← host (.verifyCapability
      { operation := name, requestedSpendCents := resolvedSpend
        toolCallId := truthyStr (some toolCallId), toolName := some name })
    if result.allow then
      let body : Routine LangGraphResult := do
        let out ← host (.awaitHandler (.guarded name resolvedSpend))
        withDecision result.decisionId fun decisionId =>
          host (.completeSpend decisionId .consumed)
        return .result out
      releaseOnException result.decisionId body fun decisionId =>
        host (.completeSpend decisionId .released)
    else return denyToolMessage name toolCallId result

end PaybondKit.Agent
