import PaybondKit.Agent.Interceptor
import PaybondKit.Policy.Reload

/-!
# The calls of an agent run

Everything that runs on the event loop of one agent run: the interceptor's two
methods, the two guards that share its capability token, and reloads, by hand or
from a background trigger. Reloads carry the bound their wait is unrolled to.
-/

namespace PaybondKit.Agent

open Policy

inductive AgentCall where
  | authorizeToolCall (input : ToolCallInput)
  | wrapExecute (input : ToolCallInput)
  | guardTool (request : SpendRequest)
  | awrapToolCallCapability (call : LangGraphToolCall)
  | reloadPolicy (options : PaybondPolicyReloadOptions) (bound : ℕ)
  | reloadPolicyOnHandle (options : PaybondPolicyReloadOptions)
      (allowedTools : Option (List String)) (bound : ℕ)
  | triggerReload (poll : PaybondPolicyReloadPollConfig) (trigger : ReloadTrigger) (bound : ℕ)

inductive AgentOutcome where
  | decided (decision : PaybondToolInputGuardDecision)
  | executed (result : PaybondInterceptWrapExecuteResult)
  | guarded (result : PyValue)
  | capability (result : LangGraphResult)
  | reloaded (result : PaybondPolicyReloadResult)
  | triggered

namespace AgentCall

/-- The calls of the interceptor that ask for a tool. -/
def UsesInterceptor : AgentCall → Prop
  | .authorizeToolCall _ | .wrapExecute _ => True
  | _ => False

/-- The calls that run a handler and finalize its reservation. -/
def RunsHandler : AgentCall → Prop
  | .wrapExecute _ | .guardTool _ | .awrapToolCallCapability _ => True
  | _ => False

instance : DecidablePred RunsHandler
  | .wrapExecute _ | .guardTool _ | .awrapToolCallCapability _ => isTrue trivial
  | .authorizeToolCall _ | .reloadPolicy _ _ | .reloadPolicyOnHandle _ _ _
  | .triggerReload _ _ _ => isFalse id

/-- The call is a `wrap_execute`. -/
def WrapsExecute : AgentCall → Prop
  | .wrapExecute _ => True
  | _ => False

instance : DecidablePred WrapsExecute
  | .wrapExecute _ => isTrue trivial
  | .authorizeToolCall _ | .guardTool _ | .awrapToolCallCapability _ | .reloadPolicy _ _
  | .reloadPolicyOnHandle _ _ _ | .triggerReload _ _ _ => isFalse id

instance : DecidablePred UsesInterceptor
  | .authorizeToolCall _ | .wrapExecute _ => isTrue trivial
  | .guardTool _ | .awrapToolCallCapability _ | .reloadPolicy _ _
  | .reloadPolicyOnHandle _ _ _ | .triggerReload _ _ _ => isFalse id

section Reloads

variable (binding : PaybondRunBinding)

/-- The options of a reload. -/
def reloadOptions? : AgentCall → Option PaybondPolicyReloadOptions
  | .reloadPolicy options _ | .reloadPolicyOnHandle options _ _ => some options
  | .triggerReload poll trigger _ =>
      some (triggerOptions (binding.policyFilePath.getD "") poll trigger)
  | _ => none

/-- The call is a reload. -/
def Reloads (call : AgentCall) : Prop := (call.reloadOptions? binding).isSome = true

/-- The call is a reload that does not allow loosening. -/
def DeniesLoosening (call : AgentCall) : Prop :=
  ∃ options, call.reloadOptions? binding = some options ∧ options.allowLoosen = false

instance (call : AgentCall) : Decidable (call.DeniesLoosening binding) :=
  decidable_of_iff ((call.reloadOptions? binding).any (!·.allowLoosen) = true) <| by
    simp [DeniesLoosening, Option.any_eq_true]

end Reloads

end AgentCall

/-- What each call runs. -/
def program (platform : Platform) (binding : PaybondRunBinding) :
    AgentCall → Routine AgentOutcome
  | .authorizeToolCall input => .decided <$> authorizeToolCall binding input
  | .wrapExecute input => .executed <$> wrapExecute platform binding input
  | .guardTool request => .guarded <$> guardTool request
  | .awrapToolCallCapability call => .capability <$> awrapToolCallCapability call
  | .reloadPolicy options bound => .reloaded <$> Policy.reloadPolicy platform binding options bound
  | .reloadPolicyOnHandle options allowedTools bound =>
      .reloaded <$> Policy.reloadPolicyOnHandle platform binding.policyFilePath options
        allowedTools bound
  | .triggerReload poll trigger bound =>
      (fun _ => .triggered) <$> Policy.triggerReload platform binding
        (triggerOptions (binding.policyFilePath.getD "") poll trigger) bound

/-- The event loop after the scheduler and the host have made their decisions. -/
abbrev runAgent (platform : Platform) (binding : PaybondRunBinding) (init : RunState)
    (actions : List (Action AgentCall runMachine)) :
    Loop AgentCall Val PyExc AgentOutcome RunState :=
  Loop.run runMachine (program platform binding) init actions

/-! ## A travel agent -/

/-- A host whose answers do not change while it has control. No time passes. -/
def hostChoices (answers : (call : HostCall) → Except PyExc call.Answer) :
    ℕ → (op : Op) → runMachine.Choice op
  | _, .access _ => (0 : ℕ)
  | _, .host call => answers call

def platformTravel : Platform where
  catalog := { presets := [{ presetId := "cost_and_completion", kind := "archetype" }] }
  documentDigest document := "sha256:" ++ document.name
  valueDigestSha256Hex _ := .ok "00"
  actionReceiptId intentId toolCallId := intentId ++ toolCallId
  agentReceiptMessageDigestSha256Hex _ := .ok "00"
  epochMsToRfc3339 _ := "1970-01-01T00:00:00Z"
  lower text := text
  pyStr _ := ""

def bindingTravel : PaybondRunBinding where
  runId := "run"
  tenantId := "tenant"
  intentId := "intent"
  allowedTools := ["travel.book_hotel"]
  sandbox := some
    { operation := "travel.book_hotel", requestedSpendCents := 20000
      sandboxLifecycleStatus := "active" }
  policyFilePath := some "paybond.policy.yaml"

def registryTravel : PaybondToolRegistry where
  defaultDeny := true
  sideEffecting := .ofList [("travel.book_hotel",
    { toolName := "travel.book_hotel", operation := "travel.book_hotel"
      evidencePreset := "cost_and_completion", spendCents := some (.cents 15000) })]

/-- Book a hotel as the given tool call. -/
def bookHotel (toolCallId : String) : ToolCallInput where
  toolName := "travel.book_hotel"
  toolCallId := toolCallId

end PaybondKit.Agent
